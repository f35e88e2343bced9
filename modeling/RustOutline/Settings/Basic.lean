import RustOutline.Level
import RustOutline.Value

namespace RustOutline

inductive LogFormat where
  | json
  | console
deriving DecidableEq, Repr, Inhabited

def LogFormat.name : LogFormat → String
  | .json => "json"
  | .console => "console"

def LogFormat.all : List LogFormat := [.json, .console]

/-- One log output: `stderr`, `stdout` or an absolute path. Without a level of its own it has the
level of the whole log. -/
structure LogOutput where
  format : LogFormat := .console
  destination : String := "stderr"
  level : Option Level := none
deriving DecidableEq, Repr, Inhabited

structure LoggingSettings where
  level : Level := .warning
  outputs : List LogOutput := [{}]
deriving DecidableEq, Repr, Inhabited

inductive Edition where
  | e2015
  | e2018
  | e2021
  | e2024
deriving DecidableEq, Repr, Inhabited

def Edition.name : Edition → String
  | .e2015 => "2015"
  | .e2018 => "2018"
  | .e2021 => "2021"
  | .e2024 => "2024"

def Edition.all : List Edition := [.e2015, .e2018, .e2021, .e2024]

structure ExtractSettings where
  includePrivate : Bool := false
  edition : Edition := .e2024
deriving DecidableEq, Repr, Inhabited

structure TelemetrySettings where
  enabled : Bool := false
  otlpEndpoint : Option String := none
  serviceName : String := "rustsyms"
deriving DecidableEq, Repr, Inhabited

structure Settings where
  logging : LoggingSettings := {}
  extract : ExtractSettings := {}
  telemetry : TelemetrySettings := {}
deriving DecidableEq, Repr, Inhabited

def LogOutput.toValue (o : LogOutput) : Value := .obj [
  ("format", .str o.format.name), ("destination", .str o.destination),
  ("level", .text? (o.level.map Level.name))]

def LoggingSettings.toValue (s : LoggingSettings) : Value := .obj [
  ("level", .str s.level.name), ("outputs", .arr (s.outputs.map LogOutput.toValue))]

def ExtractSettings.toValue (s : ExtractSettings) : Value := .obj [
  ("include_private", .bool s.includePrivate), ("edition", .str s.edition.name)]

def TelemetrySettings.toValue (s : TelemetrySettings) : Value := .obj [
  ("enabled", .bool s.enabled), ("otlp_endpoint", .text? s.otlpEndpoint),
  ("service_name", .str s.serviceName)]

def Settings.toValue (s : Settings) : Value := .obj [
  ("logging", s.logging.toValue), ("extract", s.extract.toValue),
  ("telemetry", s.telemetry.toValue)]

end RustOutline
