import RustOutline.Decimal.Real
import RustOutline.Settings.Environment
import RustOutline.Tracing.Fault

/-! How finished spans are collected before they are exported. Of the OpenTelemetry SDK this is
assumed: a variable that is no number does not count; the sizes and the delay have to be positive,
and a batch no larger than its queue, in this order; and then a queue has to be made, which has a
greatest length. -/
namespace RustOutline.Tracing

structure Batch where
  queueSize : Int := 2048
  /-- Milliseconds between two exports. -/
  delay : Int := 5000
  size : Int := 512
deriving DecidableEq, Repr, Inhabited

namespace Batch

def number (env : Environment) (name : String) (default : Int) : Int :=
  ((env.get? name).bind Decimal.wholeOfText?).getD default

def ofEnvironment (env : Environment) : Batch where
  queueSize := number env "OTEL_BSP_MAX_QUEUE_SIZE" 2048
  delay := number env "OTEL_BSP_SCHEDULE_DELAY" 5000
  size := number env "OTEL_BSP_MAX_EXPORT_BATCH_SIZE" 512

def longestQueue : Int := Int64.maxValue.toInt

def fault? (b : Batch) : Option SetupFault :=
  if b.queueSize ≤ 0 then some .queueSize
  else if b.delay ≤ 0 then some .exportDelay
  else if b.size ≤ 0 then some .batchSize
  else if b.queueSize < b.size then some .batchOverQueue
  else if longestQueue < b.queueSize then some .queueTooLong
  else none

end Batch
end RustOutline.Tracing
