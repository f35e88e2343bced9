import RustOutline.Command.Options
import RustOutline.Log.Hub
import RustOutline.Outline.Clock
import RustOutline.Outline.Document
import RustOutline.Outline.Journal
import RustOutline.Settings.Load
import RustOutline.Tracing.Tracer

/-! One run of the program, as a function of what it can see. -/
namespace RustOutline.Command
open Log Tracing

/-- What a run can see. The parser, the clock and the libraries are given from outside. -/
structure Surroundings where
  files : Files
  yaml : Yaml.Reader
  environment : Environment := []
  homes : Homes
  globalPath : String
  parse : String → Node
  elapsed : Except ClockFault Int := .ok 0
  encode : Encoder := Encoder.standard {}
  exporterAvailable : Bool := false
  /-- How a provider of traces is made, and with which error it shuts down, if any. -/
  build : Builder := Builder.standard
  shutdownError : Option String := none
  now : String
  freshId : String

structure Process where
  hub : Hub := {}
  tracer : Tracer := {}
deriving DecidableEq, Repr, Inhabited

inductive Complaint where
  | usage (e : UsageError)
  | failure (f : Failure)
  | unreadable (path reason : String)
deriving Inhabited

def Complaint.message : Complaint → String
  | .usage e => e.message
  | .failure f => f.message
  | .unreadable path reason => "Cannot read '" ++ path ++ "': " ++ reason

/-- What ends a run without a report of the program's own. -/
inductive Escape where
  | settings (e : LoadError)
  | file (e : OpenError)
  | tracing (r : Raised)
  | clock (e : ClockFault)
deriving Inhabited

def Escape.raised : Escape → Raised
  | .settings e => e.raised
  | .file e => e.raised
  | .tracing r => r
  | .clock e => e.raised

structure Outcome where
  exitCode : Nat
  document : Option String := none
  complaint : Option Complaint := none
  escaped : Option Escape := none
  deliveries : List Delivery := []
  /-- Log files that the run opened. -/
  opened : List String := []
  process : Process
deriving Inhabited

namespace Outcome

def linesTo (o : Outcome) (destination : String) : List Line :=
  (o.deliveries.filter fun d => d.destination == destination).map Delivery.line

/-- All that was written to the standard output: log lines sent there, then the document. -/
def stdout (o : Outcome) : String :=
  String.join ((o.linesTo "stdout").map fun l => l.render ++ "\n") ++
    (match o.document with
      | some text => text ++ "\n"
      | none => "")

end Outcome

/-- A source file as text: UTF-8, with newlines unified. -/
def readSource (files : Files) (path : String) : Except String String :=
  match files.read path with
  | .error e => .error e.message
  | .ok bytes => match Utf8.decodeStrict bytes with
    | .error m => .error m.message
    | .ok text => .ok (String.ofList (Text.unifyNewlines text.toList))

def Notice.event (n : Notice) : Event := .plain n.level.number n.message

def logFiles (s : LoggingSettings) : List String :=
  (s.outputs.map LogOutput.destination).filter fun d => d != "stderr" && d != "stdout"

/-- Everything between reading the text and writing the document: the response, unless tracing
cannot be set up or the clock fails, the lines that were logged, and the state afterwards. Whatever
happens after tracing is set up, it is shut down and the request is over. -/
def extractLogged (w : Surroundings) (p : Process) (settings : Settings) (path text : String)
    (includePrivate : Bool) : Except Escape Response × List Delivery × Process :=
  let started := p.tracer.init w.environment (some settings.telemetry) w.exporterAvailable
    w.build
  let (hub, opening) := p.hub.run w.now
    (.bindRequest w.freshId :: (started.notices.map Notice.event).map .emit)
  match started.fault with
  | some fault => (.error (.tracing fault), opening, ⟨hub, started.tracer⟩)
  | none =>
    let response := w.elapsed.map (extract (Utf8.encode text) (w.parse text) includePrivate)
    let stopped := started.tracer.shutdown (w.shutdownError.map .runtimeError)
    let journal := match response with
      | .ok r => r.journal (some path) settings.extract.edition.name includePrivate
      | .error _ => []
    let events := journal ++ stopped.notices.map Notice.event
    let (hub, lines) := hub.run w.now (events.map .emit ++ [.unbindRequest])
    (response.mapError .clock, opening ++ lines, ⟨hub, stopped.tracer⟩)

def document (w : Surroundings) (request : ParseRequest) (response : Response) :
    Except Failure String :=
  let indent : Json.Indent := if request.pretty then some 2 else none
  if request.modules then ModuleSummary.document w.encode indent (flattenModules response.file)
  else response.document w.encode indent

def runParse (w : Surroundings) (p : Process) (settings : Settings) (request : ParseRequest) :
    Outcome :=
  match readSource w.files request.path with
  | .error reason =>
    { exitCode := 1, complaint := some (.unreadable request.path reason), process := p }
  | .ok text =>
    let includePrivate := request.includePrivate.getD settings.extract.includePrivate
    let (response, deliveries, p) := extractLogged w p settings request.path text includePrivate
    match response with
    | .error e => { exitCode := 1, escaped := some e, deliveries, process := p }
    | .ok response => match document w request response with
      | .ok text => { exitCode := 0, document := some text, deliveries, process := p }
      | .error f => { exitCode := 1, complaint := some (.failure f), deliveries, process := p }

def versionText : String := "rustsyms, version " ++ Tracing.version

def loadFailed (p : Process) : LoadError → Outcome
  | .failure f => { exitCode := 1, complaint := some (.failure f), process := p }
  | e => { exitCode := 1, escaped := some (.settings e), process := p }

def misused (p : Process) : UsageError → Outcome
  | .unnamable => { exitCode := 1, escaped := some (.file .unnamable), process := p }
  | e => { exitCode := 2, complaint := some (.usage e), process := p }

/-- The command with its settings: the log is set up, with its files opened, before the arguments
are read. -/
def runCommand (w : Surroundings) (p : Process) (verbose : Bool) (settings : Settings)
    (args : List String) : Outcome :=
  let logging := if verbose then { settings.logging with level := .debug } else settings.logging
  let (files, opened, error) := w.files.openAll (logFiles logging)
  let w := { w with files }
  let p := { p with hub := p.hub.configure logging }
  match error with
  | some e => { exitCode := 1, escaped := some (.file e), opened, process := p }
  | none =>
    let outcome : Outcome := match parseRequest w.files args with
      | .error e => misused p e
      | .ok request =>
        if request.help then { exitCode := 0, process := p }
        else runParse w p settings request
    { outcome with opened }

def run (w : Surroundings) (p : Process) (args : List String) : Outcome :=
  match request w.files args with
  | .error e => misused p e
  | .ok .nothing => { exitCode := 2, process := p }
  | .ok .version => { exitCode := 0, document := some versionText, process := p }
  | .ok .help => { exitCode := 0, process := p }
  | .ok (.command verbose config _ args) =>
    let sources : Sources :=
      { files := w.files, yaml := w.yaml, globalPath := w.globalPath, explicitPath := config,
        environment := w.environment, homes := w.homes }
    match sources.load with
    | .error e => loadFailed p e
    | .ok settings => runCommand w p verbose settings args

end RustOutline.Command
