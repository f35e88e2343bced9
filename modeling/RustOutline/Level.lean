import RustOutline.Text.Blank
import RustOutline.Text.UpperCase

namespace RustOutline

inductive Level where
  | debug
  | info
  | warning
  | error
  | critical
deriving DecidableEq, Repr, Inhabited

namespace Level

def number : Level → Nat
  | .debug => 10
  | .info => 20
  | .warning => 30
  | .error => 40
  | .critical => 50

def name : Level → String
  | .debug => "DEBUG"
  | .info => "INFO"
  | .warning => "WARNING"
  | .error => "ERROR"
  | .critical => "CRITICAL"

def label : Level → String
  | .debug => "debug"
  | .info => "info"
  | .warning => "warning"
  | .error => "error"
  | .critical => "critical"

def all : List Level := [.debug, .info, .warning, .error, .critical]

def ofName? (name : String) : Option Level := all.find? fun l => l.name == name

/-- The name in canonical form: trimmed, in capitals, the two short names written out. -/
def normalize (name : String) : String :=
  match Text.upper (Text.strip name) with
  | "WARN" => "WARNING"
  | "FATAL" => "CRITICAL"
  | capitals => capitals

/-- The number of a level name in any case, short names and `NOTSET` included; a name that is
absent, empty or unknown has the default. -/
def numberOf (name : Option String) (default : Int) : Int :=
  match name.map Text.upper with
  | some "WARN" => 30
  | some "FATAL" => 50
  | some "NOTSET" => 0
  | some capitals => ((ofName? capitals).map fun l => (l.number : Int)).getD default
  | none => default

end Level
end RustOutline
