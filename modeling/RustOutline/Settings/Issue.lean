import RustOutline.Value.Display

namespace RustOutline

inductive Step where
  | key (name : String)
  | index (i : Nat)
deriving DecidableEq, Repr, Inhabited

def Step.text : Step → String
  | .key name => name
  | .index i => toString i

abbrev Location := List Step

def Location.text (loc : Location) : String := ".".intercalate (loc.map Step.text)

inductive Complaint where
  | notObject (model : String)
  | notOneOf (choices : List String)
  | unknownBool
  | notBool
  | notText
  | notList
  | rejected (reason : String)
  | unexpected
  /-- The value names a home folder that is not known. No other complaint is made then. -/
  | unknownHome
deriving DecidableEq, Repr, Inhabited

namespace Complaint

def enumerate : List String → String
  | [] => ""
  | [a] => "'" ++ a ++ "'"
  | [a, b] => "'" ++ a ++ "' or '" ++ b ++ "'"
  | a :: rest => "'" ++ a ++ "', " ++ enumerate rest

def message : Complaint → String
  | .notObject model => "Input should be a valid dictionary or instance of " ++ model
  | .notOneOf choices => "Input should be " ++ enumerate choices
  | .unknownBool => "Input should be a valid boolean, unable to interpret input"
  | .notBool => "Input should be a valid boolean"
  | .notText => "Input should be a valid string"
  | .notList => "Input should be a valid list"
  | .rejected reason => "Value error, " ++ reason
  | .unexpected => "Extra inputs are not permitted"
  | .unknownHome => "Could not determine home directory."

def code : Complaint → String
  | .notObject _ => "model_type"
  | .notOneOf _ => "literal_error"
  | .unknownBool => "bool_parsing"
  | .notBool => "bool_type"
  | .notText => "string_type"
  | .notList => "list_type"
  | .rejected _ => "value_error"
  | .unexpected => "extra_forbidden"
  | .unknownHome => "unknown_home"

end Complaint

structure Issue where
  location : Location
  complaint : Complaint
  input : Value
deriving Inhabited

structure Issues where
  first : Issue
  rest : List Issue
deriving Inhabited

namespace Issues

def toList (is : Issues) : List Issue := is.first :: is.rest

def append (is js : Issues) : Issues := ⟨is.first, is.rest ++ js.toList⟩

instance : Append Issues := ⟨append⟩

end Issues

/-- A checked value, or all that is wrong with it. -/
abbrev Check (α : Type) := Except Issues α

namespace Check

/-- Both results, or the issues of both. -/
def both {α β : Type} (a : Check α) (b : Check β) : Check (α × β) :=
  match a, b with
  | .ok x, .ok y => .ok (x, y)
  | .ok _, .error f => .error f
  | .error e, .ok _ => .error e
  | .error e, .error f => .error (e ++ f)

def fail {α : Type} (loc : Location) (complaint : Complaint) (input : Value) : Check α :=
  .error ⟨⟨loc, complaint, input⟩, []⟩

def field {α : Type} (fields : Fields) (loc : Location) (name : String) (default : α)
    (check : Location → Value → Check α) : Check α :=
  match Fields.get? name fields with
  | none => .ok default
  | some v => check (loc ++ [.key name]) v

def items {α : Type} (loc : Location) (check : Location → Value → Check α) :
    Nat → List Value → Check (List α)
  | _, [] => .ok []
  | i, v :: vs =>
    ((check (loc ++ [.index i]) v).both (items loc check (i + 1) vs)).map fun (x, xs) => x :: xs

end Check
end RustOutline
