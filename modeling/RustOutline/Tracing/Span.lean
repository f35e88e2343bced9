import RustOutline.Tracing.Tracer
import RustOutline.Value.Display

/-! Spans around work. A span is exported if a provider was held when it began and still is when it
ends; inner spans end first. -/
namespace RustOutline.Tracing

structure FinishedSpan where
  name : String
  attributes : Fields
  /-- What the span ended with, if it was an error. -/
  error : Option Raised
  /-- The attributes of the events on the span. -/
  events : List Fields
  service : String
deriving Inhabited

def kindAttribute : String := "exception.type"
def messageAttribute : String := "exception.message"

/-- An error as an event. The trace and the mark that it left the span come last. -/
def errorEvent (limits : Limits) (r : Raised) : Fields :=
  setAttributes limits.eventAttributes limits.text [] [
    (kindAttribute, .str r.kind), (messageAttribute, .str r.message),
    ("exception.stacktrace", .str r.text), ("exception.escaped", .str "False")]

def spanName (given : Option String) (qualified : String) : String :=
  match given with
  | some name => if name == "" then qualified else name
  | none => qualified

inductive Ending where
  | value (v : Value)
  | raise (r : Raised)
deriving Inhabited

inductive Task where
  | setVariables (changes : List (String × Option String))
  | resolve (config : Option TelemetrySettings)
  | insecure (endpoint : String)
  | version (installed : Bool)
  | init (config : Option TelemetrySettings)
  | shutdown
  | span (name : String) (attributes : Fields) (recordErrors : Bool) (later : Fields)
      (inner : List Task) (ending : Ending)
deriving Inhabited

structure Session where
  tracer : Tracer := {}
  environment : Environment := []
  exporterAvailable : Bool := false
  build : Builder := Builder.standard
  /-- What shutting a provider down raises. -/
  shutdownRaises : Option Raised := none

structure Effect where
  notices : List Notice := []
  exporter : List ExporterEvent := []
  spans : List FinishedSpan := []
deriving Inhabited

def Effect.append (a b : Effect) : Effect :=
  ⟨a.notices ++ b.notices, a.exporter ++ b.exporter, a.spans ++ b.spans⟩

instance : Append Effect := ⟨Effect.append⟩

structure Step where
  session : Session
  effect : Effect
  result : Except Raised Value

/-- A change of the tracer, and what its caller is given unless it is broken off. -/
def Session.apply (s : Session) (c : Change) (result : Value) : Step where
  session := { s with tracer := c.tracer }
  effect := { notices := c.notices, exporter := c.exporter }
  result := match c.fault with
    | some r => .error r
    | none => .ok result

def Session.setVariables (s : Session) (changes : List (String × Option String)) : Session :=
  { s with environment := changes.foldl (fun env (k, v) => match v with
      | some v => env.set k v
      | none => env.unset k) s.environment }

/-- The end of a span that began in session `before`, with the attributes that it was given one
after another. -/
def finish (before : Session) (name : String) (attributes : List Fields) (recordErrors : Bool)
    (inside : Step) : Step :=
  match before.tracer.provider, inside.session.tracer.provider with
  | some provider, some _ =>
    if provider.silent then inside
    else
      let limits := provider.limits
      let error := match inside.result with
        | .error r => if r.isError then some r else none
        | .ok _ => none
      let finished : FinishedSpan := {
        name, error
        attributes := attributes.foldl (setAttributes limits.attributes limits.spanText) []
        events := match error with
          | some r => if recordErrors && limits.events != some 0 then [errorEvent limits r] else []
          | none => []
        service := provider.service }
      { inside with effect := inside.effect ++ { spans := [finished] } }
  | _, _ => inside

mutual
def Session.run (s : Session) : Task → Step
  | .setVariables changes => ⟨s.setVariables changes, {}, .ok .null⟩
  | .resolve config => ⟨s, {}, .ok (.obj [
      ("enabled", .bool (isEnabled s.environment config)),
      ("endpoint", .text? (endpoint? s.environment config)),
      ("service", .str (serviceName s.environment config))])⟩
  | .insecure endpoint => ⟨s, {}, .ok (.bool (isInsecure endpoint))⟩
  | .version installed => ⟨s, {}, .ok (.str (versionOf installed))⟩
  | .init config =>
    let change := s.tracer.init s.environment config s.exporterAvailable s.build
    s.apply change (.bool change.active)
  | .shutdown => s.apply (s.tracer.shutdown s.shutdownRaises) .null
  | .span name attributes recordErrors later inner ending =>
    let inside := s.runAll inner
    let inside := match inside.result, ending with
      | .error r, _ => { inside with result := .error r }
      | .ok _, .value v => { inside with result := .ok v }
      | .ok _, .raise r => { inside with result := .error r }
    finish s name [attributes, later] recordErrors inside

def Session.runAll (s : Session) : List Task → Step
  | [] => ⟨s, {}, .ok .null⟩
  | t :: rest =>
    let first := s.run t
    match first.result with
    | .error _ => first
    | .ok _ =>
      let more := first.session.runAll rest
      { more with effect := first.effect ++ more.effect }
end

end RustOutline.Tracing
