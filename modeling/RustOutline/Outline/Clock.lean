import RustOutline.Failure

namespace RustOutline

inductive Reading where
  | whole (n : Int)
  | real (x : Float)
deriving Inhabited

inductive ClockFault where
  | infinite
  | undefined
  | tooLarge
deriving DecidableEq, Repr, Inhabited

def ClockFault.raised : ClockFault → Raised
  | .infinite => .overflow "cannot convert float infinity to integer"
  | .undefined => .valueError "cannot convert float NaN to integer"
  | .tooLarge => .overflow "int too large to convert to float"

def Reading.toReal : Reading → Except ClockFault Float
  | .real x => .ok x
  | .whole n => match Decimal.Double.ofFloat (Float.ofInt n) with
    | .finite _ => .ok (Float.ofInt n)
    | _ => .error .tooLarge

/-- Whole milliseconds between two readings: exact if both are whole, otherwise of doubles, a half
to the even one. -/
def elapsedMs (started finished : Reading) : Except ClockFault Int :=
  match started, finished with
  | .whole a, .whole b => .ok ((b - a) * 1000)
  | a, b => do
    let a ← a.toReal
    let b ← b.toReal
    match Decimal.Double.ofFloat ((b - a) * 1000) with
    | .finite d => return d.round
    | .infinite _ => throw .infinite
    | .nan => throw .undefined

end RustOutline
