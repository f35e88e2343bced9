import RustOutline.Decimal.Binary
import RustOutline.Decimal.Real
import RustOutline.Settings.Environment
import RustOutline.Tracing.Fault

/-! Which spans are recorded at all. Of the OpenTelemetry SDK this is assumed: a sampler that is
named by a variable in any case switches spans off, or asks for a ratio between zero and one; the
name of an unknown sampler does not count, and neither does a ratio that is no number; a variable
switches the whole SDK off. -/
namespace RustOutline.Tracing

/-- How many of the 2 ^ 64 trace numbers are recorded at a ratio. -/
def recordedOf (ratio : Float) : Except SetupFault Nat :=
  if ratio < 0.0 || 1.0 < ratio then .error .ratioOutside
  else match Decimal.Double.ofFloat (ratio * Float.ofNat (Nat.pow 2 64)) with
    | .finite d => .ok d.round.toNat
    | _ => .error .ratioUndefined

def ratioOf (env : Environment) : Float :=
  ((env.get? "OTEL_TRACES_SAMPLER_ARG").bind Decimal.realOfText?).getD 1.0

def isSilent (env : Environment) : Except SetupFault Bool := do
  let word (name : String) : String := Text.lower ((env.get? name).getD "")
  let sampler := word "OTEL_TRACES_SAMPLER"
  let none ← if ["traceidratio", "parentbased_traceidratio"].contains sampler
    then (recordedOf (ratioOf env)).map (· == 0)
    else .ok (["always_off", "parentbased_always_off"].contains sampler)
  return none || Text.strip (word "OTEL_SDK_DISABLED") == "true"

end RustOutline.Tracing
