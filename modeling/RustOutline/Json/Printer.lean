import RustOutline.Value.Display

/-! JSON text of a value, on one line or indented. Characters are written as they are, apart from
quotes, backslashes and controls. -/
namespace RustOutline.Json

/-- Without an indent the text is one line; `some n` starts a line per element, `n` blanks deeper at
each level. -/
abbrev Indent := Option Nat

def escape (c : Char) : List Char :=
  if c = '"' ∨ c = '\\' then ['\\', c]
  else if c = '\n' then ['\\', 'n']
  else if c = '\r' then ['\\', 'r']
  else if c = '\t' then ['\\', 't']
  else if c = '\x08' then ['\\', 'b']
  else if c = '\x0c' then ['\\', 'f']
  else if c.toNat < 0x20 then ['\\', 'u'] ++ Text.hex 4 c.toNat
  else [c]

def quote (s : String) : List Char := '"' :: s.toList.flatMap escape ++ ['"']

def lineBreak (indent : Indent) (depth : Nat) : List Char :=
  match indent with
  | none => []
  | some n => '\n' :: List.replicate (n * depth) ' '

def separator (indent : Indent) (depth : Nat) : List Char :=
  match indent with
  | none => [',', ' ']
  | some _ => ',' :: lineBreak indent depth

/-- A double by its shortest decimal text; what is not finite is written as a word. -/
def realText (x : Float) : List Char :=
  match Decimal.Double.ofFloat x with
  | .nan => "NaN".toList
  | .infinite negative => (if negative then "-Infinity" else "Infinity").toList
  | .finite _ => Decimal.text x

def keyText : Key → String
  | .text s => s
  | .null => "null"
  | .bool b => if b then "true" else "false"
  | .int n => toString n
  | .real bits => String.ofList (realText (Float.ofBits bits))

mutual
/-- The text of a value at a depth, in front of what follows it. -/
def write (indent : Indent) (depth : Nat) (tail : List Char) : Value → List Char
  | .null => "null".toList ++ tail
  | .bool b => (if b then "true" else "false").toList ++ tail
  | .int n => (toString n).toList ++ tail
  | .real x => realText x ++ tail
  | .str s => quote s ++ tail
  | .arr [] => '[' :: ']' :: tail
  | .arr (v :: vs) =>
    '[' :: (lineBreak indent (depth + 1) ++ write indent (depth + 1)
      (writeItems indent (depth + 1) (lineBreak indent depth ++ ']' :: tail) vs) v)
  | .obj [] => '\x7b' :: '\x7d' :: tail
  | .obj ((k, v) :: rest) =>
    '\x7b' :: (lineBreak indent (depth + 1) ++ (quote (keyText k) ++ ':' :: ' ' ::
      write indent (depth + 1)
        (writeFields indent (depth + 1) (lineBreak indent depth ++ '\x7d' :: tail) rest) v))
  | .foreign _ => tail

def writeItems (indent : Indent) (depth : Nat) (tail : List Char) : List Value → List Char
  | [] => tail
  | v :: vs =>
    separator indent depth ++ write indent depth (writeItems indent depth tail vs) v

def writeFields (indent : Indent) (depth : Nat) (tail : List Char) :
    List (Key × Value) → List Char
  | [] => tail
  | (k, v) :: rest =>
    separator indent depth ++ (quote (keyText k) ++
      ':' :: ' ' :: write indent depth (writeFields indent depth tail rest) v)
end

/-- The text of a whole value; what has no JSON form is left out. -/
def render (indent : Indent) (v : Value) : List Char := write indent 0 [] v

/-- How many collections may lie in each other, if there is a bound, and what is said of more. The
bound is that of the interpreter's stack. -/
structure Nesting where
  most : Option Nat := none
  excess : String := "maximum recursion depth exceeded"
deriving DecidableEq, Repr, Inhabited

def Nesting.admits (nesting : Nesting) (depth : Nat) : Bool := nesting.most.all (depth < ·)

def unknownClass (name : String) : String := "Object of type " ++ name ++ " is not JSON serializable"

def circular : String := "Circular reference detected"

def badName (kind : String) : String :=
  "keys must be str, int, float, bool or None, not " ++ kind

mutual
/-- The reason of the first part of a value, in reading order, that cannot be written: it has no JSON
form, it is an integer with too many digits, or it is a collection that lies too deep. -/
def obstacle? (nesting : Nesting) (depth : Nat) : Value → Option String
  | .foreign reason => some reason
  | .int n => if Decimal.isWritable n then none else some (Decimal.excess "")
  | .arr items =>
    if nesting.admits depth then obstacleItem? nesting (depth + 1) items else some nesting.excess
  | .obj fields =>
    if nesting.admits depth then obstacleField? nesting (depth + 1) fields else some nesting.excess
  | _ => none

def obstacleItem? (nesting : Nesting) (depth : Nat) : List Value → Option String
  | [] => none
  | v :: vs => match obstacle? nesting depth v with
    | some reason => some reason
    | none => obstacleItem? nesting depth vs

def obstacleField? (nesting : Nesting) (depth : Nat) : List (Key × Value) → Option String
  | [] => none
  | (k, v) :: rest =>
    if k.isWritable then match obstacle? nesting depth v with
      | some reason => some reason
      | none => obstacleField? nesting depth rest
    else some (Decimal.excess "")
end

def print (nesting : Nesting) (indent : Indent) (v : Value) : Except String String :=
  match obstacle? nesting 0 v with
  | some reason => .error reason
  | none => .ok (String.ofList (render indent v))

end RustOutline.Json
