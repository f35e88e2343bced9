import RustOutline.Failure
import RustOutline.Log.Hub

/-! Calls of loggers. Fields are passed by name, so a name can clash with a parameter of one of the
functions that a call goes through; such a call raises instead of logging. -/
namespace RustOutline.Log

structure Call where
  logger : Option String := none
  method : String
  message : String
  fields : Fields := []
deriving Inhabited

namespace Call

def level (c : Call) : Level :=
  match c.method with
  | "debug" => .debug
  | "warning" | "warn" => .warning
  | "error" | "err" | "exception" => .error
  | "critical" | "fatal" => .critical
  | _ => .info

def event (c : Call) : Event :=
  if c.method == "exception" then .ofError c.logger c.message c.fields
  else .ofLogger c.logger c.level c.message c.fields

/-- The function behind a method; below the level of the loggers it does nothing. -/
def callee (active : Bool) (c : Call) : String :=
  if c.method == "exception" then "exception"
  else if active then "_make_filtering_bound_logger.<locals>.make_method.<locals>.meth"
  else "_nop"

def twice (callee name : String) : Raised :=
  .typeError (callee ++ "() got multiple values for argument '" ++ name ++ "'")

def clash? (least : Nat) (c : Call) : Option Raised :=
  let active := decide (least ≤ c.level.number)
  let names := (Fields.named c.fields).map Prod.fst
  match names.find? fun name => name == "self" || name == "event" with
  | some name => some (twice (c.callee active) name)
  | none =>
    if active && names.contains "method_name" then
      some (twice "BoundLoggerBase._proxy_to_logger" "method_name")
    else none

def stray? (c : Call) : Option Raised :=
  (strayBelow? c.fields).map fun v =>
    .typeError ("can only concatenate str (not \"" ++ v.className ++ "\") to str")

end Call

/-- What a call raises instead of logging. Only loggers that nobody has configured make their lines by
themselves. -/
def Hub.refusal? (h : Hub) (c : Call) : Option Raised :=
  (c.clash? (h.wrapper.getD 0)).or (if h.wrapper.isNone then c.stray? else none)

end RustOutline.Log
