import RustOutline.Value.Display

/-! Failures that are reported to the user, each with a stable code; and what else can end a piece of
work. -/
namespace RustOutline

/-- What is raised, by the name of its class: an error, or a request to stop the program. -/
structure Raised where
  kind : String
  message : String
  isError : Bool := true
deriving DecidableEq, Repr, Inhabited

namespace Raised

def text (r : Raised) : String := r.kind ++ ": " ++ r.message

/-- The classes of requests to stop the program. -/
def requests : List String :=
  ["SystemExit", "KeyboardInterrupt", "GeneratorExit", "BaseException"]

/-- What is raised by the name of its class, with an argument. A failed look-up shows what it looked
for as a literal. -/
def ofClass (kind : String) (argument : Value) : Raised where
  kind := kind
  message := if kind == "KeyError" then argument.literal else argument.display
  isError := !requests.contains kind

def valueError (message : String) : Raised := { kind := "ValueError", message }
def typeError (message : String) : Raised := { kind := "TypeError", message }
def overflow (message : String) : Raised := { kind := "OverflowError", message }
def runtimeError (message : String) : Raised := { kind := "RuntimeError", message }

end Raised

/-- What went wrong: codes from 2000 on concern the configuration, from 3000 on the extraction. -/
inductive Code where
  | configParse
  | configInvalidValue
  | configFileNotFound
  | serializationFailed
  | grammarUnavailable
deriving DecidableEq, Repr, Inhabited

namespace Code

def number : Code → Nat
  | .configParse => 2001
  | .configInvalidValue => 2002
  | .configFileNotFound => 2004
  | .serializationFailed => 3001
  | .grammarUnavailable => 3002

def name : Code → String
  | .configParse => "CONFIG_PARSE_ERROR"
  | .configInvalidValue => "CONFIG_INVALID_VALUE"
  | .configFileNotFound => "CONFIG_FILE_NOT_FOUND"
  | .serializationFailed => "EXTRACT_SERIALIZATION_FAILED"
  | .grammarUnavailable => "EXTRACT_GRAMMAR_UNAVAILABLE"

def all : List Code :=
  [.configParse, .configInvalidValue, .configFileNotFound, .serializationFailed,
    .grammarUnavailable]

def ofName? (name : String) : Option Code := all.find? fun c => c.name == name

end Code

structure Failure where
  code : Code
  message : String
  retryable : Bool := false
  details : Fields := []
deriving Inhabited

namespace Failure

def parse (path reason : String) : Failure where
  code := .configParse
  message := "Failed to parse config at " ++ path ++ ": " ++ reason
  details := [("path", .str path), ("reason", .str reason)]

def invalidValue (field : String) (value : Value) (reason : String) : Failure where
  code := .configInvalidValue
  message := "Invalid value for '" ++ field ++ "': " ++ reason
  details := [("field", .str field), ("value", .str value.display), ("reason", .str reason)]

def fileNotFound (path : String) : Failure where
  code := .configFileNotFound
  message := "Config file not found: " ++ path
  details := [("path", .str path)]

def serialization (reason : String) : Failure where
  code := .serializationFailed
  message := "Failed to serialize extraction result: " ++ reason
  details := [("reason", .str reason)]

def grammar (reason : String) : Failure where
  code := .grammarUnavailable
  message := "Rust grammar could not be loaded: " ++ reason
  details := [("reason", .str reason)]

def className (f : Failure) : String :=
  if f.code.number < 3000 then "ConfigError" else "ExtractionError"

/-- What loading the grammar raises, as a failure; only errors about its value or its type become
one. -/
def ofGrammar? (r : Raised) : Option Failure :=
  if r.kind == "ValueError" || r.kind == "TypeError" then some (.grammar r.message) else none

def line (f : Failure) : String :=
  "[" ++ toString f.code.number ++ "] " ++ f.code.name ++ ": " ++ f.message

def toValue (f : Failure) : Value := .obj [
  ("code", .int f.code.number), ("error", .str f.code.name), ("message", .str f.message),
  ("retryable", .bool f.retryable), ("details", .obj f.details)]

end Failure
end RustOutline
