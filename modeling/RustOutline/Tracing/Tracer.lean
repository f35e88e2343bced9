import RustOutline.Level
import RustOutline.Settings.Basic
import RustOutline.Settings.Environment
import RustOutline.Text.Search
import RustOutline.Tracing.Batch
import RustOutline.Tracing.Limits
import RustOutline.Tracing.Sampling

/-! Tracing is set up at most once. It needs to be enabled, an endpoint and an exporter; what is
installed then is made by a builder from outside. -/
namespace RustOutline.Tracing

def version : String := "0.1.0"

def versionOf (installed : Bool) : String := if installed then version else "unknown"

def endpointVariable : String := "OTEL_EXPORTER_OTLP_ENDPOINT"
def serviceVariable : String := "OTEL_SERVICE_NAME"

def given? (env : Environment) (name : String) : Option String := (env.get? name).filter (· != "")

def isEnabled (env : Environment) (config : Option TelemetrySettings) : Bool :=
  (given? env endpointVariable).isSome || config.any TelemetrySettings.enabled

def endpoint? (env : Environment) (config : Option TelemetrySettings) : Option String :=
  match given? env endpointVariable with
  | some endpoint => some endpoint
  | none => (config.bind TelemetrySettings.otlpEndpoint).filter (· != "")

def serviceName (env : Environment) (config : Option TelemetrySettings) : String :=
  match given? env serviceVariable with
  | some name => name
  | none => match config with
    | some c => c.serviceName
    | none => "rustsyms"

def isInsecure (endpoint : String) : Bool := Text.startsWith "http://" endpoint

structure Plan where
  service : String
  endpoint : String
  insecure : Bool
deriving DecidableEq, Repr, Inhabited

def plan? (env : Environment) (config : Option TelemetrySettings) : Option Plan :=
  (endpoint? env config).map fun endpoint =>
    { service := serviceName env config, endpoint, insecure := isInsecure endpoint }

/-- An installed provider of traces; it exports spans until it is shut down, unless it is silent. -/
structure Provider where
  service : String
  limits : Limits := {}
  silent : Bool := false
deriving DecidableEq, Repr, Inhabited

def knownService (name : String) : String := if name == "" then "unknown_service:python3" else name

def Provider.ofEnvironment (env : Environment) (service : String) :
    Except SetupFault Provider := do
  let silent ← isSilent env
  let limits ← Limits.ofEnvironment env
  return { service := knownService service, limits, silent }

inductive Built where
  | provider (p : Provider)
  /-- Something is raised, before the exporter is there or after that. -/
  | broken (opened : Bool) (r : Raised)
deriving DecidableEq, Repr, Inhabited

/-- How providers are made. That is up to the tracing library and to what it finds. -/
abbrev Builder := Environment → Plan → Built

/-- A builder that looks at the variables for sampling, limits and batches, and whose exporter opens
whatever the endpoint is. -/
def Builder.standard : Builder := fun env plan =>
  match Provider.ofEnvironment env plan.service with
  | .error fault => .broken false fault.raised
  | .ok provider => match (Batch.ofEnvironment env).fault? with
    | some fault => .broken true fault.raised
    | none => .provider provider

structure Tracer where
  initialized : Bool := false
  provider : Option Provider := none
deriving DecidableEq, Repr, Inhabited

structure Notice where
  level : Level
  message : String
deriving DecidableEq, Repr, Inhabited

inductive ExporterEvent where
  | opened (endpoint : String) (insecure : Bool)
  | closed
deriving DecidableEq, Repr, Inhabited

structure Change where
  tracer : Tracer
  notices : List Notice
  exporter : List ExporterEvent := []
  /-- The provider that became the one of the whole process. -/
  installed : Option Provider := none
  /-- What the caller of a set-up that ends is told: whether tracing is active. -/
  active : Bool := false
  /-- What the call was broken off with. -/
  fault : Option Raised := none
deriving DecidableEq, Repr, Inhabited

namespace Tracer

def isActive (t : Tracer) : Bool := t.provider.isSome

/-- Only the first call does any work; it leaves a provider if everything is there. -/
def init (t : Tracer) (env : Environment) (config : Option TelemetrySettings)
    (exporterAvailable : Bool) (build : Builder) : Change :=
  if t.initialized then
    { tracer := t, notices := [⟨.debug, "Telemetry already initialized"⟩], active := t.isActive }
  else
    let t := { t with initialized := true }
    if !isEnabled env config then
      { tracer := t, notices := [⟨.debug, "Telemetry not enabled (set " ++
        "OTEL_EXPORTER_OTLP_ENDPOINT or telemetry.enabled=true)"⟩] }
    else match plan? env config with
      | none => { tracer := t, notices := [⟨.warning,
          "Telemetry enabled but no OTLP endpoint configured - telemetry disabled"⟩] }
      | some plan =>
        if !exporterAvailable then
          { tracer := t, notices := [⟨.warning, "Failed to import OTLP exporter (install " ++
            "opentelemetry-exporter-otlp-proto-grpc): No module named 'opentelemetry.exporter'"⟩] }
        else
          let opening : ExporterEvent := .opened plan.endpoint plan.insecure
          match build env plan with
          | .broken opened r => {
              tracer := t, notices := [], exporter := if opened then [opening] else []
              fault := some r }
          | .provider provider => {
              tracer := { t with provider := some provider }
              notices := [⟨.info, "Telemetry initialized: endpoint=" ++ plan.endpoint⟩]
              exporter := [opening]
              installed := some provider
              active := true }

/-- Shuts the provider down and lets it go, also after an error. A request to stop the program goes
through, and then the provider is still held. -/
def shutdown (t : Tracer) (raised : Option Raised) : Change :=
  match t.provider, raised with
  | none, _ => { tracer := t, notices := [] }
  | some _, none => {
      tracer := { t with provider := none }, exporter := [.closed]
      notices := [⟨.debug, "Tracer provider shut down"⟩] }
  | some _, some r =>
    if r.isError then {
      tracer := { t with provider := none }, exporter := [.closed]
      notices := [⟨.warning, "Error shutting down tracer provider: " ++ r.message⟩] }
    else { tracer := t, notices := [], exporter := [.closed], fault := some r }

end Tracer
end RustOutline.Tracing
