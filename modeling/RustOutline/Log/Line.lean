import RustOutline.Json.Printer
import RustOutline.Value.Display

/-! Lines of a log, for people or as JSON. Of the renderers of structlog this is assumed: a console
line has the time, the level, the event and the logger first and the other fields by their names,
with texts in quotes where they would be ambiguous; a stack and an error stand below it; and a JSON
line holds all fields in order, in printable ASCII. -/
namespace RustOutline.Log

inductive Line where
  | text (s : String)
  | record (fields : Fields)
deriving Inhabited

private def unitEscape (n : Nat) : List Char := ['\\', 'u'] ++ Text.hex 4 n

/-- Characters outside printable ASCII as escapes, in pairs above U+FFFF. -/
def asciiEscape (c : Char) : List Char :=
  let n := c.toNat
  if n < 0x7F then [c]
  else if n < 0x10000 then unitEscape n
  else unitEscape (0xD800 + (n - 0x10000) / 0x400) ++ unitEscape (0xDC00 + (n - 0x10000) % 0x400)

def Line.render : Line → String
  | .text s => s
  | .record fields => String.ofList ((Json.render none (.obj fields)).flatMap asciiEscape)

/-- Characters that make a text ambiguous in a line of `key=value` pairs. -/
def needsQuotes (c : Char) : Bool := [' ', '\t', '=', '\r', '\n', '"', '\''].contains c

def fieldText : Value → String
  | .str s => if s.toList.any needsQuotes then Text.literal s else s
  | v => v.literal

structure Layout where
  level : Nat := 0
  message : Nat := 0
deriving DecidableEq, Repr, Inhabited

def padTo (width : Nat) (s : String) : String :=
  s ++ String.ofList (List.replicate (width - s.length) ' ')

def inBrackets (s : String) : String := "[" ++ s ++ "]"

def assignment (name : String) (v : Value) : String := name ++ "=" ++ fieldText v

/-- The names that have a place of their own in a console line, with the form of their values. -/
def placed (layout : Layout) : List (String × (Value → String)) := [
  ("", assignment ""), ("timestamp", Value.display),
  ("level", fun v => inBrackets (padTo layout.level v.display)),
  ("event", fun v => padTo layout.message v.display),
  ("logger", fun v => inBrackets v.display), ("logger_name", fun v => inBrackets v.display)]

def placedBelow : List String := ["stack", "exception", "exc_info"]

def isPlaced (layout : Layout) (name : String) : Bool :=
  ((placed layout).lookup name).isSome || placedBelow.contains name

/-- The line `time [level] event [logger] key=value …`, other keys in order; empty parts are left
out. -/
def headLine (layout : Layout) (entry : Fields) : String :=
  let firsts := (placed layout).filterMap fun (name, form) => (Fields.get? name entry).map form
  let others := (Fields.named entry).filter fun (name, _) => !isPlaced layout name
  let sorted := others.mergeSort fun a b => !decide (b.1 < a.1)
  let parts := firsts ++ sorted.map fun (name, v) => assignment name v
  let line := " ".intercalate (parts.filter (· != ""))
  String.ofList (line.toList.reverse.dropWhile (· == ' ')).reverse

def ruler : String := "\n\n" ++ String.ofList (List.replicate 79 '=') ++ "\n"

def belowLine (entry : Fields) : String :=
  let shown (name : String) : Option String :=
    ((Fields.get? name entry).filter (!·.isNull)).map fun v => "\n" ++ v.display
  let failed := (Fields.get? "exc_info" entry).any Value.isTruthy || (shown "exception").isSome
  match shown "stack" with
  | none => (shown "exception").getD ""
  | some stack => stack ++ (if failed then ruler else "") ++ (shown "exception").getD ""

/-- The first value below that is no text, so that no line can be made. -/
def strayBelow? (entry : Fields) : Option Value :=
  ["stack", "exception"].findSome? fun (name : String) =>
    (Fields.get? name entry).filter fun
      | .str _ => false
      | v => !v.isNull

def console (layout : Layout) (entry : Fields) : String := headLine layout entry ++ belowLine entry

end RustOutline.Log
