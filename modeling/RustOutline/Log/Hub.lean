import RustOutline.Log.Event
import RustOutline.Log.Line
import RustOutline.Settings.Validation

/-! The log hub: it decides which outputs an event reaches. Of structlog this is assumed: a logger
lets through what its own least level admits and passes it on to the standard log, and before it is
configured it writes to the output stream by itself. -/
namespace RustOutline.Log

structure Sink where
  format : LogFormat
  destination : String
  least : Nat
deriving DecidableEq, Repr, Inhabited

/-- The bound request id, and what a configuration sets. -/
structure Hub where
  requestId : Option String := none
  /-- The least severity that loggers let through, once the log is configured. -/
  wrapper : Option Nat := none
  /-- The least severity of the standard log below them. -/
  rootLevel : Nat := Level.warning.number
  handlers : List Sink := []
deriving DecidableEq, Repr, Inhabited

structure Delivery where
  destination : String
  line : Line
deriving Inhabited

/-- An output without a level of its own has that of the whole log. -/
def Sink.ofOutput (rootLevel : Nat) (o : LogOutput) : Sink where
  format := o.format
  destination := o.destination
  least := (Level.numberOf (o.level.map Level.name) rootLevel).toNat

namespace Sink

def line (s : Sink) (entry : Fields) : Line :=
  match s.format with
  | .json => .record entry
  | .console => .text (console {} entry)

def deliver? (s : Sink) (severity : Nat) (entry : Fields) : Option Delivery :=
  if s.least ≤ severity then some ⟨s.destination, s.line entry⟩ else none

end Sink

/-- Without any output, warnings and worse go to the error stream as they are. -/
def lastResort (e : Event) (entry : Fields) : List Delivery :=
  if Level.warning.number ≤ e.severity then
    [⟨"stderr", .text (if e.structured then Value.literal (.obj entry) else e.message)⟩]
  else []

def preliminary : Layout where
  level := 9
  message := 30

namespace Hub

/-- Sets the loggers and the standard log, and replaces all handlers. -/
def configure (h : Hub) (s : LoggingSettings) : Hub :=
  let rootLevel := (Level.numberOf (some s.level.name) Level.warning.number).toNat
  { h with
    wrapper := some rootLevel, rootLevel, handlers := s.outputs.map (Sink.ofOutput rootLevel) }

/-- The lines of an event that has come to the standard log, handler by handler. -/
def route (h : Hub) (e : Event) (entry : Fields) : List Delivery :=
  if e.severity < h.rootLevel then []
  else if h.handlers.isEmpty then lastResort e entry
  else h.handlers.filterMap fun s => s.deliver? e.severity entry

/-- The lines that an event causes. Before the log is configured, loggers write to the output stream
by themselves. -/
def deliver (h : Hub) (now : String) (e : Event) : List Delivery :=
  let entry := e.entry h.requestId now
  if e.structured then
    match h.wrapper with
    | none => [⟨"stdout", .text (console preliminary (Fields.without "stack_info" entry))⟩]
    | some least => if e.severity < least then [] else h.route e entry
  else h.route e entry

end Hub

inductive Action where
  | configure (settings : LoggingSettings)
  | bindRequest (id : String)
  | unbindRequest
  | emit (event : Event)
deriving Inhabited

namespace Hub

def step (now : String) (h : Hub) : Action → Hub × List Delivery
  | .configure s => (h.configure s, [])
  | .bindRequest id => ({ h with requestId := some id }, [])
  | .unbindRequest => ({ h with requestId := none }, [])
  | .emit e => (h, h.deliver now e)

def run (now : String) (h : Hub) : List Action → Hub × List Delivery
  | [] => (h, [])
  | a :: rest =>
    let (h', lines) := h.step now a
    let (h'', more) := h'.run now rest
    (h'', lines ++ more)

end Hub

def requestIdOr (fresh : String) (given : Option String) : String :=
  match given with
  | some id => if id == "" then fresh else id
  | none => fresh

def simpleSettings (json : Bool) (level : Value) : Check LoggingSettings :=
  (checkLevel [.key "level"] level).map fun level =>
    { level, outputs := [{ format := if json then .json else .console }] }

end RustOutline.Log
