namespace RustOutline.Decimal

/-- The number `±mantissa · 2 ^ exponent`. -/
structure Dyadic where
  negative : Bool
  mantissa : Nat
  exponent : Int
deriving DecidableEq, Repr

/-- A double is a dyadic number, an infinity or no number. -/
inductive Double where
  | finite (d : Dyadic)
  | infinite (negative : Bool)
  | nan
deriving DecidableEq, Repr

/-- The leading bit of a mantissa, which the 52 stored bits of a double leave out. -/
def hiddenBit : Nat := Nat.pow 2 52

def Double.ofBits (bits : UInt64) : Double :=
  let n := bits.toNat
  let negative := n / Nat.pow 2 63 == 1
  let biased : Nat := n / hiddenBit % 2048
  let fraction := n % hiddenBit
  if biased == 2047 then (if fraction == 0 then .infinite negative else .nan)
  else if biased == 0 then .finite ⟨negative, fraction, -1074⟩
  else .finite ⟨negative, fraction + hiddenBit, (biased : Int) - 1075⟩

def Double.ofFloat (x : Float) : Double := .ofBits x.toBits

/-- The quotient rounded to the nearest integer, a half to the even one. -/
def divRoundEven (num den : Nat) : Nat :=
  let q := num / den
  let r := num % den
  if 2 * r < den then q else if den < 2 * r then q + 1 else q + q % 2

def Dyadic.round (d : Dyadic) : Int :=
  let size := match d.exponent with
    | .ofNat e => d.mantissa * Nat.pow 2 e
    | .negSucc e => divRoundEven d.mantissa (Nat.pow 2 (e + 1))
  if d.negative then -(size : Int) else size

def Dyadic.whole? (d : Dyadic) : Option Int :=
  let size : Option Nat := match d.exponent with
    | .ofNat e => some (d.mantissa * Nat.pow 2 e)
    | .negSucc e =>
      let den := Nat.pow 2 (e + 1)
      if d.mantissa % den = 0 then some (d.mantissa / den) else none
  size.map fun n => if d.negative then -(n : Int) else n

def whole? (x : Float) : Option Int :=
  match Double.ofFloat x with
  | .finite d => d.whole?
  | _ => none

end RustOutline.Decimal
