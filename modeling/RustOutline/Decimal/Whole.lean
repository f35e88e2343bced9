import RustOutline.Text.Digit

/-! Whole numbers as people write them: a sign, and digits of any script that single underscores may
divide. -/
namespace RustOutline.Decimal

/-- A number with more decimal digits is neither read nor written. -/
def mostDigits : Nat := 4300

def isWritable (n : Int) : Bool := n.natAbs < Nat.pow 10 mostDigits

def excess (remark : String) : String :=
  "Exceeds the limit (" ++ toString mostDigits ++ " digits) for integer string conversion" ++
    remark ++ "; use sys.set_int_max_str_digits() to increase the limit"

/-- The digits of a number, if underscores stand only between digits. -/
def digits? (afterDigit : Bool) : List Char → Option (List Nat)
  | [] => if afterDigit then some [] else none
  | c :: cs => match Text.digit? c with
    | some d => (digits? true cs).map (d :: ·)
    | none => if c = '_' && afterDigit then digits? false cs else none

def size? (cs : List Char) : Option Nat :=
  (digits? false cs).bind fun ds =>
    if mostDigits < ds.length then none
    else some (ds.foldl (fun n d => n * 10 + d) 0)

def ofText? (cs : List Char) : Option Int :=
  match cs with
  | '-' :: ds => (size? ds).map fun n => -(n : Int)
  | '+' :: ds => (size? ds).map Int.ofNat
  | ds => (size? ds).map Int.ofNat

end RustOutline.Decimal
