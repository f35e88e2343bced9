import RustOutline.Level
import RustOutline.Value

namespace RustOutline.Log

/-- An event before it is routed. A structured one comes from a logger of this library; a plain one
is only a message. -/
structure Event where
  severity : Nat
  label : String
  message : String
  structured : Bool
  logger : Option String := none
  fields : Fields := []
deriving Inhabited

namespace Event

/-- An event of a logger; an empty logger name counts as none. -/
def ofLogger (logger : Option String) (level : Level) (message : String) (fields : Fields) :
    Event where
  severity := level.number
  label := level.label
  message := message
  structured := true
  logger := logger.filter (· != "")
  fields := fields

def ofError (logger : Option String) (message : String) (fields : Fields) : Event :=
  ofLogger logger .error message (Fields.putNew "exc_info" (.bool true) fields)

def labelOf (severity : Nat) : String :=
  match Level.all.find? fun l => l.number == severity with
  | some l => l.label
  | none => if severity == 0 then "notset" else "level " ++ toString severity

def plain (severity : Nat) (message : String) : Event where
  severity := severity
  label := labelOf severity
  message := message
  structured := false

/-- The fields that are written: the call's own fields win over the logger name and the bound
request id, but not over level and time. -/
def entry (requestId : Option String) (now : String) (e : Event) : Fields :=
  let named : Fields := match e.logger with
    | some name => [("logger", .str name)]
    | none => []
  let called := e.fields.foldl (fun fs (k, v) => Fields.put k v fs) named
  let told := Fields.put "event" (.str e.message) called
  let bound := match requestId with
    | some id => Fields.putNew "request_id" (.str id) told
    | none => told
  Fields.put "timestamp" (.str now) (Fields.put "level" (.str e.label) bound)

end Event
end RustOutline.Log
