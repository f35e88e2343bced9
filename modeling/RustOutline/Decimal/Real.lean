import RustOutline.Decimal.Whole
import RustOutline.Json.Reader
import RustOutline.Text.Blank

/-! Numbers with a point or an exponent as people write them, in digits of any script. -/
namespace RustOutline.Decimal

/-- Blanks that may stand around a number. Of the ASCII controls only the common ones count. -/
def isMargin (c : Char) : Bool :=
  if c.toNat < 128 then c = ' ' || (9 ≤ c.toNat && c.toNat ≤ 13) else Text.isBlank c

def withoutMargins (cs : List Char) : List Char :=
  ((cs.dropWhile isMargin).reverse.dropWhile isMargin).reverse

def inAscii (c : Char) : Char := (Text.digit? c).elim c Nat.digitChar

/-- The characters without underscores, which may stand only between digits. -/
def undivided? (afterDigit : Bool) : List Char → Option (List Char)
  | [] => some []
  | '_' :: d :: cs =>
    if afterDigit && d.isDigit then (undivided? true cs).map (d :: ·) else none
  | c :: cs => if c = '_' then none else (undivided? c.isDigit cs).map (c :: ·)

def lowerLetters (cs : List Char) : List Char := cs.map Char.toLower

def realSize? (negative : Bool) (cs : List Char) : Option Float :=
  if ["inf".toList, "infinity".toList].contains (lowerLetters cs) then
    some (if negative then -1.0 / 0.0 else 1.0 / 0.0)
  else if lowerLetters cs == "nan".toList then some (0.0 / 0.0)
  else do
    let whole := cs.takeWhile Char.isDigit
    let (fraction, rest) := match cs.dropWhile Char.isDigit with
      | '.' :: rest => (rest.takeWhile Char.isDigit, rest.dropWhile Char.isDigit)
      | rest => ([], rest)
    if whole.isEmpty && fraction.isEmpty then none
    let (exponent, rest) ← Json.readExponent rest
    if rest.isEmpty then some (Json.realOf negative whole fraction (exponent.getD 0)) else none

def realOfText? (text : String) : Option Float := do
  let cs ← undivided? false ((withoutMargins text.toList).map inAscii)
  match cs with
  | '-' :: rest => realSize? true rest
  | '+' :: rest => realSize? false rest
  | rest => realSize? false rest

def wholeOfText? (text : String) : Option Int := ofText? (withoutMargins text.toList)

end RustOutline.Decimal
