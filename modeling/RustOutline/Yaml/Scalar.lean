import RustOutline.Json.Reader
import RustOutline.Yaml.Fault

namespace RustOutline.Yaml

private def isWord (words : List String) (cs : List Char) : Bool :=
  words.contains (String.ofList cs)

private def trueWords := ["yes", "Yes", "YES", "true", "True", "TRUE", "on", "On", "ON"]
private def falseWords := ["no", "No", "NO", "false", "False", "FALSE", "off", "Off", "OFF"]
private def nullWords := ["~", "null", "Null", "NULL", ""]

def splitSign : List Char → Bool × List Char
  | '-' :: cs => (true, cs)
  | '+' :: cs => (false, cs)
  | cs => (false, cs)

def isDigitOf (base : Nat) (c : Char) : Bool := c == '_' || (Json.hexValue? c).any (· < base)

def areDigits (base : Nat) (cs : List Char) : Bool := !cs.isEmpty && cs.all (isDigitOf base)

def isCount (cs : List Char) : Bool := cs.head?.any Char.isDigit && cs.all (isDigitOf 10)

def withoutUnderscores (cs : List Char) : List Char := cs.filter (· != '_')

def inBase (base : Nat) (cs : List Char) : Except Fault Nat :=
  match withoutUnderscores cs with
  | [] => .error (.noDigits base)
  | ds => .ok (ds.foldl (fun n c => n * base + (Json.hexValue? c).getD 0) 0)

def decimal (cs : List Char) : Except Fault Nat :=
  let ds := withoutUnderscores cs
  if Decimal.mostDigits < ds.length then .error (.manyDigits ds.length)
  else .ok (Json.digitsValue ds)

def splitColons : List Char → List (List Char)
  | [] => [[]]
  | c :: cs =>
    if c = ':' then [] :: splitColons cs
    else match splitColons cs with
      | [] => [[c]]
      | part :: rest => (c :: part) :: rest

def isSixtieth : List Char → Bool
  | [d] => d.isDigit
  | [t, d] => '0' ≤ t && t ≤ '5' && d.isDigit
  | _ => false

/-- A number in base sixty, such as `1:30`. -/
def sexagesimal : List (List Char) → Except Fault Nat
  | [] => .ok 0
  | first :: more => do
    let n ← decimal first
    more.foldlM (fun n part => return n * 60 + (← decimal part)) n

/-- The size of an integer after its sign: decimal, octal after `0`, hexadecimal after `0x`, binary
after `0b`, or in base sixty. -/
def magnitude? (cs : List Char) : Option (Except Fault Nat) :=
  match cs with
  | ['0'] => some (.ok 0)
  | '0' :: 'x' :: ds => if areDigits 16 ds then some (inBase 16 ds) else none
  | '0' :: 'b' :: ds => if areDigits 2 ds then some (inBase 2 ds) else none
  | '0' :: ds => if areDigits 8 ds then some (inBase 8 (withoutUnderscores cs)) else none
  | _ => match splitColons cs with
    | first :: rest =>
      if isCount first && rest.all isSixtieth then some (sexagesimal (first :: rest)) else none
    | [] => none

def int? (cs : List Char) : Option (Except Fault Int) :=
  let (negative, size) := splitSign cs
  (magnitude? size).map fun n => n.map fun n => if negative then -(n : Int) else n

def exponent? : List Char → Option Int
  | [] => some 0
  | e :: s :: ds =>
    if (e == 'e' || e == 'E') && (s == '-' || s == '+') && !ds.isEmpty && ds.all Char.isDigit then
      let n : Int := Json.digitsValue ds
      some (if s == '-' then -n else n)
    else none
  | _ => none

def sumOfParts (sum : Float) (base : Nat) : List Float → Except Fault Float
  | [] => .ok sum
  | x :: xs => match Decimal.Double.ofFloat (Float.ofNat base) with
    | .finite _ => sumOfParts (sum + x * Float.ofNat base) (base * 60) xs
    | _ => .error .wideNumber

def sexagesimalReal? (whole fraction : List Char) : Option (Except Fault Float) :=
  match splitColons whole with
  | first :: second :: more =>
    if isCount first && (second :: more).all isSixtieth && fraction.all (isDigitOf 10) then
      let parts := (first :: second :: more).map withoutUnderscores
      let part (ds : List Char) : Float := Json.realOf false ds [] 0
      let last := Json.realOf false (parts.getLast?.getD []) (withoutUnderscores fraction) 0
      some (sumOfParts 0.0 1 (last :: (parts.dropLast.map part).reverse))
    else none
  | _ => none

def real? (cs : List Char) : Option (Except Fault Float) :=
  let (negative, size) := splitSign cs
  let sign (x : Float) : Float := if negative then -x else x
  if isWord [".inf", ".Inf", ".INF"] size then some (.ok (sign (1.0 / 0.0)))
  else if isWord [".nan", ".NaN", ".NAN"] cs then some (.ok (0.0 / 0.0))
  else
    let whole := size.takeWhile (· != '.')
    match size.dropWhile (· != '.') with
    | _ :: rest =>
      let fraction := rest.takeWhile (isDigitOf 10)
      let startsWell := if whole.isEmpty then size.length == cs.length && isCount fraction
        else isCount whole
      if startsWell then
        (exponent? (rest.dropWhile (isDigitOf 10))).map fun e =>
          .ok (Json.realOf negative (withoutUnderscores whole) (withoutUnderscores fraction) e)
      else (sexagesimalReal? whole rest).map fun x => x.map sign
    | [] => none

/-- Marks that stand for no value: `<<` merges, and `=` is a name. -/
def isMark (cs : List Char) : Bool := isWord ["<<", "="] cs

def resolve (cs : List Char) : Except Fault Value :=
  if isMark cs then .error .noValue
  else if isWord nullWords cs then .ok .null
  else if isWord trueWords cs then .ok (.bool true)
  else if isWord falseWords cs then .ok (.bool false)
  else match real? cs with
    | some x => x.map .real
    | none => match int? cs with
      | some n => n.map .int
      | none => .ok (.str (String.ofList cs))

end RustOutline.Yaml
