import RustOutline.Failure

/-! Why tracing could not be set up: a variable of the environment is out of order. -/
namespace RustOutline.Tracing

inductive SetupFault where
  /-- A variable that should hold a limit and does not. -/
  | limit (name text : String)
  | ratioOutside
  | ratioUndefined
  | queueSize
  | exportDelay
  | batchSize
  | batchOverQueue
  /-- No queue can have such a length. -/
  | queueTooLong
deriving DecidableEq, Repr, Inhabited

def SetupFault.raised : SetupFault → Raised
  | .limit name text => .valueError (name ++ " must be a non-negative integer but got " ++ text)
  | .ratioOutside => .valueError "Probability must be in range [0.0, 1.0]."
  | .ratioUndefined => .valueError "cannot convert float NaN to integer"
  | .queueSize => .valueError "max_queue_size must be a positive integer."
  | .exportDelay => .valueError "schedule_delay_millis must be positive."
  | .batchSize => .valueError "max_export_batch_size must be a positive integer."
  | .batchOverQueue =>
    .valueError "max_export_batch_size must be less than or equal to max_queue_size."
  | .queueTooLong => .overflow "Python int too large to convert to C ssize_t"

end RustOutline.Tracing
