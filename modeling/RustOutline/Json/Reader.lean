import RustOutline.Decimal.Whole
import RustOutline.Value

/-! Reading JSON text. A reader takes characters and gives a value and the rest; of two fields with
one name the later value stands in the place of the earlier. -/
namespace RustOutline.Json

/-- Where a reader departs from the standard grammar. -/
structure Dialect where
  /-- The words `NaN`, `Infinity` and `-Infinity` are numbers. -/
  unbounded : Bool := false
  /-- An integer with more digits is refused. -/
  mostDigits : Option Nat := none
deriving DecidableEq, Repr, Inhabited

def standard : Dialect := {}

/-- What environment variables are written in. -/
def relaxed : Dialect where
  unbounded := true
  mostDigits := some Decimal.mostDigits

def isSpace (c : Char) : Bool := c = ' ' || c = '\t' || c = '\n' || c = '\r'

def skipSpace (cs : List Char) : List Char := cs.dropWhile isSpace

def hexValue? (c : Char) : Option Nat :=
  if '0' ≤ c ∧ c ≤ '9' then some (c.toNat - '0'.toNat)
  else if 'a' ≤ c ∧ c ≤ 'f' then some (c.toNat - 'a'.toNat + 10)
  else if 'A' ≤ c ∧ c ≤ 'F' then some (c.toNat - 'A'.toNat + 10)
  else none

def codeUnit? (a b c d : Char) : Option Nat := do
  let a ← hexValue? a
  let b ← hexValue? b
  let c ← hexValue? c
  let d ← hexValue? d
  return ((a * 16 + b) * 16 + c) * 16 + d

def unescape? (c : Char) : Option Char :=
  if c = '"' ∨ c = '\\' ∨ c = '/' then some c
  else if c = 'n' then some '\n'
  else if c = 'r' then some '\r'
  else if c = 't' then some '\t'
  else if c = 'b' then some '\x08'
  else if c = 'f' then some '\x0c'
  else none

/-- A character read after a surrogate code unit needs the other half. -/
def pair? (high low : Nat) : Option Char :=
  if 0xD800 ≤ high ∧ high < 0xDC00 ∧ 0xDC00 ≤ low ∧ low < 0xE000 then
    some (Char.ofNat (0x10000 + (high - 0xD800) * 0x400 + (low - 0xDC00)))
  else none

/-- The characters of a string after its opening quote, and what follows the closing one. -/
def readString : List Char → Option (List Char × List Char)
  | [] => none
  | '"' :: rest => some ([], rest)
  | '\\' :: 'u' :: a :: b :: c :: d :: rest =>
    match codeUnit? a b c d with
    | none => none
    | some u =>
      if u < 0xD800 ∨ 0xE000 ≤ u then
        (readString rest).map fun (cs, r) => (Char.ofNat u :: cs, r)
      else match rest with
        | '\\' :: 'u' :: a :: b :: c :: d :: rest =>
          match (codeUnit? a b c d).bind (pair? u) with
          | none => none
          | some ch => (readString rest).map fun (cs, r) => (ch :: cs, r)
        | _ => none
  | '\\' :: e :: rest =>
    match unescape? e with
    | none => none
    | some ch => (readString rest).map fun (cs, r) => (ch :: cs, r)
  | c :: rest =>
    if c.toNat < 0x20 ∨ c = '\\' then none
    else (readString rest).map fun (cs, r) => (c :: cs, r)

def digitsValue (ds : List Char) : Nat := ds.foldl (fun n c => n * 10 + (c.toNat - '0'.toNat)) 0

def readFraction : List Char → Option (List Char × List Char)
  | '.' :: rest =>
    match rest.takeWhile Char.isDigit with
    | [] => none
    | ds => some (ds, rest.dropWhile Char.isDigit)
  | rest => some ([], rest)

/-- The exponent after the fraction; `none` inside if there is none. -/
def readExponent : List Char → Option (Option Int × List Char)
  | c :: rest =>
    if c = 'e' ∨ c = 'E' then
      let (negative, rest) := match rest with
        | '-' :: r => (true, r)
        | '+' :: r => (false, r)
        | r => (false, r)
      match rest.takeWhile Char.isDigit with
      | [] => none
      | ds =>
        let n : Int := digitsValue ds
        some (some (if negative then -n else n), rest.dropWhile Char.isDigit)
    else some (none, c :: rest)
  | [] => some (none, [])

/-- The double nearest to `±whole.fraction · 10 ^ exponent`. Beyond the range of doubles the digits
do not count. -/
def realOf (negative : Bool) (whole fraction : List Char) (exponent : Int) : Float :=
  let ds := (whole ++ fraction).dropWhile (· == '0')
  let e := exponent - fraction.length
  let top := e + ds.length
  let x : Float := if ds.isEmpty || top < -400 then 0.0
    else if 400 < top then 1.0 / 0.0
    else Float.ofScientific (digitsValue ds) (e < 0) e.natAbs
  if negative then -x else x

/-- A number after its sign. The whole part has no leading zero. -/
def readUnsigned (d : Dialect) (negative : Bool) (cs : List Char) :
    Option (Value × List Char) :=
  let whole := cs.takeWhile Char.isDigit
  if whole.isEmpty || (whole.length > 1 && whole.head? == some '0') then none
  else do
    let (fraction, rest) ← readFraction (cs.dropWhile Char.isDigit)
    let (exponent, rest) ← readExponent rest
    if fraction.isEmpty && exponent.isNone then
      if d.mostDigits.any (· < whole.length) then none
      let n : Int := digitsValue whole
      return (.int (if negative then -n else n), rest)
    else
      return (.real (realOf negative whole fraction (exponent.getD 0)), rest)

def readWord (word : List Char) (v : Value) (cs : List Char) : Option (Value × List Char) :=
  if word.isPrefixOf cs then some (v, cs.drop word.length) else none

def readNumber (d : Dialect) : List Char → Option (Value × List Char)
  | '-' :: 'I' :: rest =>
    if d.unbounded then readWord "Infinity".toList (.real (-1.0 / 0.0)) ('I' :: rest) else none
  | '-' :: rest => readUnsigned d true rest
  | cs => readUnsigned d false cs

mutual
/-- A value at the front of the text. The fuel bounds the nesting and the number of elements. -/
def readValue (d : Dialect) : Nat → List Char → Option (Value × List Char)
  | 0, _ => none
  | fuel + 1, cs =>
    match skipSpace cs with
    | [] => none
    | c :: rest =>
      if c = '"' then (readString rest).map fun (s, r) => (.str (String.ofList s), r)
      else if c = '[' then
        match skipSpace rest with
        | ']' :: r => some (.arr [], r)
        | r => (readItems d fuel r).map fun (vs, r) => (.arr vs, r)
      else if c = '\x7b' then
        match skipSpace rest with
        | '\x7d' :: r => some (.obj [], r)
        | r => (readFields d fuel [] r).map fun (fs, r) => (.obj fs, r)
      else if c = 't' then readWord "true".toList (.bool true) (c :: rest)
      else if c = 'f' then readWord "false".toList (.bool false) (c :: rest)
      else if c = 'n' then readWord "null".toList .null (c :: rest)
      else if d.unbounded && c = 'N' then readWord "NaN".toList (.real (0.0 / 0.0)) (c :: rest)
      else if d.unbounded && c = 'I' then
        readWord "Infinity".toList (.real (1.0 / 0.0)) (c :: rest)
      else readNumber d (c :: rest)

def readItems (d : Dialect) : Nat → List Char → Option (List Value × List Char)
  | 0, _ => none
  | fuel + 1, cs =>
    match readValue d fuel cs with
    | none => none
    | some (v, r) =>
      match skipSpace r with
      | ',' :: r => (readItems d fuel r).map fun (vs, r) => (v :: vs, r)
      | ']' :: r => some ([v], r)
      | _ => none

/-- One or more fields and the closing brace; `seen` holds the earlier ones. -/
def readFields (d : Dialect) : Nat → Fields → List Char → Option (Fields × List Char)
  | 0, _, _ => none
  | fuel + 1, seen, cs =>
    match skipSpace cs with
    | '"' :: r =>
      match readString r with
      | none => none
      | some (k, r) =>
        match skipSpace r with
        | ':' :: r =>
          match readValue d fuel r with
          | none => none
          | some (v, r) =>
            let seen := Fields.put (.text (String.ofList k)) v seen
            match skipSpace r with
            | ',' :: r => readFields d fuel seen r
            | '\x7d' :: r => some (seen, r)
            | _ => none
        | _ => none
    | _ => none
end

def read (d : Dialect) (s : String) : Option Value :=
  let cs := s.toList
  match readValue d (2 * cs.length + 2) cs with
  | some (v, rest) => if (skipSpace rest).isEmpty then some v else none
  | none => none

end RustOutline.Json
