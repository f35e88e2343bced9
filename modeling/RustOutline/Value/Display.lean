import RustOutline.Decimal.Shortest
import RustOutline.Decimal.Whole
import RustOutline.Text.Literal
import RustOutline.Value

/-! Values as a reader of messages sees them: `None`, `True`, `[1, 'a']`, `{'k': 1}`. -/
namespace RustOutline

def Key.literal : Key → String
  | .text s => Text.literal s
  | .null => "None"
  | .bool b => if b then "True" else "False"
  | .int n => toString n
  | .real bits => String.ofList (Decimal.text (Float.ofBits bits))

def Key.isWritable : Key → Bool
  | .int n => Decimal.isWritable n
  | _ => true

namespace Value

mutual
/-- A value inside another one, where texts are literals. -/
def literal : Value → String
  | .null => "None"
  | .bool b => if b then "True" else "False"
  | .int n => toString n
  | .real x => String.ofList (Decimal.text x)
  | .str s => Text.literal s
  | .arr items => "[" ++ ", ".intercalate (literals items) ++ "]"
  | .obj fields => "\x7b" ++ ", ".intercalate (fieldLiterals fields) ++ "\x7d"
  | .foreign reason => reason

def literals : List Value → List String
  | [] => []
  | v :: vs => literal v :: literals vs

def fieldLiterals : List (Key × Value) → List String
  | [] => []
  | (k, v) :: rest => (k.literal ++ ": " ++ literal v) :: fieldLiterals rest
end

mutual
def isWritable : Value → Bool
  | .int n => Decimal.isWritable n
  | .arr items => areWritable items
  | .obj fields => areWritableFields fields
  | _ => true

def areWritable : List Value → Bool
  | [] => true
  | v :: vs => isWritable v && areWritable vs

def areWritableFields : List (Key × Value) → Bool
  | [] => true
  | (k, v) :: rest => k.isWritable && isWritable v && areWritableFields rest
end

def className : Value → String
  | .null => "NoneType"
  | .bool _ => "bool"
  | .int _ => "int"
  | .real _ => "float"
  | .str _ => "str"
  | .arr _ => "list"
  | .obj _ => "dict"
  | .foreign _ => "object"

/-- A value on its own: a text stands for itself. -/
def display : Value → String
  | .str s => s
  | v => literal v

end Value
end RustOutline
