import RustOutline.Proofs.ConcreteTree
import RustOutline.Proofs.Invocation
import RustOutline.Proofs.ScopeMembers
import RustOutline.Proofs.SourceLayers
import RustOutline.Proofs.Utf8Inverse
import RustOutline.Yaml.Reader

/-! What a call of the `parse` command leaves behind: a whole document on the standard output or
nothing, and no state that outlives the request. Every failure has its own way out, and none of them
comes after a document. -/
namespace RustOutline

/-- Settings are only loaded if the explicit file is one. -/
theorem Sources.explicit_file_of_load {s : Sources} {settings : Settings} {path : String}
    (h : s.load = .ok settings) (hpath : s.explicitPath = some path) :
    ∃ bytes, s.files.find (shown path) = .file bytes := by
  obtain ⟨fs, hmerged, -⟩ := checkStrict_of_load h
  obtain ⟨l, hlayers, -⟩ := layers_of_merged hmerged
  have hpresent := checkExplicit_of_merged hmerged
  have hexplicit := (layers_eq_ok.mp hlayers).2.1
  simp only [checkExplicit, checkPresent, explicitLayer, hpath, readLayer, Files.read]
    at hpresent hexplicit
  cases hfind : s.files.find (shown path) with
  | file bytes => exact ⟨bytes, rfl⟩
  | folder => simp [hfind] at hexplicit
  | nothing | blocked | tooLong => simp [hfind] at hpresent

namespace Log

/-- The log is configured, and no output of it has the destination. -/
structure Hub.Avoids (h : Hub) (destination : String) : Prop where
  configured : h.wrapper.isSome = true
  handlers : ∀ s ∈ h.handlers, s.destination ≠ destination

section Avoids
variable {destination : String} {h : Hub}

theorem Hub.route_avoids (avoids : h.Avoids destination) (herror : destination ≠ "stderr")
    (e : Event) (entry : Fields) : ∀ d ∈ h.route e entry, d.destination ≠ destination := by
  intro d hd
  unfold route at hd
  split at hd
  · cases hd
  split at hd
  · unfold lastResort at hd
    split at hd
    · obtain rfl := List.mem_singleton.mp hd
      exact herror.symm
    · cases hd
  · obtain ⟨s, hs, hsome⟩ := List.mem_filterMap.mp hd
    unfold Sink.deliver? at hsome
    split at hsome
    · obtain rfl := Option.some.inj hsome
      exact avoids.handlers s hs
    · cases hsome

theorem Hub.deliver_avoids (avoids : h.Avoids destination) (herror : destination ≠ "stderr")
    (now : String) (e : Event) : ∀ d ∈ h.deliver now e, d.destination ≠ destination := by
  obtain ⟨least, hwrapper⟩ := Option.isSome_iff_exists.mp avoids.configured
  have hroute := route_avoids avoids herror e (e.entry h.requestId now)
  unfold deliver
  simp only [hwrapper]
  split
  · split
    · exact nofun
    · exact hroute
  · exact hroute

/-- What happens within a request: events, and the request itself. -/
def Action.InRequest : Action → Prop
  | .configure _ => False
  | _ => True

/-- One action sends nothing to a destination that the log avoids, and the log goes on so. -/
theorem Hub.step_avoids (now : String) (avoids : h.Avoids destination) (herror : destination ≠ "stderr")
    {a : Action} (ha : a.InRequest) : (h.step now a).1.Avoids destination ∧
      ∀ d ∈ (h.step now a).2, d.destination ≠ destination := by
  cases a with
  | configure s => exact ha.elim
  | bindRequest id => exact ⟨⟨avoids.configured, avoids.handlers⟩, nofun⟩
  | unbindRequest => exact ⟨⟨avoids.configured, avoids.handlers⟩, nofun⟩
  | emit e => exact ⟨avoids, deliver_avoids avoids herror now e⟩

theorem Hub.run_avoids (now : String) (avoids : h.Avoids destination) (herror : destination ≠ "stderr")
    {actions : List Action} (hactions : ∀ a ∈ actions, a.InRequest) :
    (h.run now actions).1.Avoids destination ∧
      ∀ d ∈ (h.run now actions).2, d.destination ≠ destination := by
  induction actions generalizing h with
  | nil => exact ⟨avoids, nofun⟩
  | cons a rest ih =>
    obtain ⟨first, later⟩ := List.forall_mem_cons.mp hactions
    have hstep := step_avoids now avoids herror first
    have hrest := ih hstep.1 later
    refine ⟨hrest.1, fun d hd => ?_⟩
    obtain hd | hd := List.mem_append.mp hd
    · exact hstep.2 d hd
    · exact hrest.2 d hd

theorem Hub.request_avoids (avoids : h.Avoids destination) (herror : destination ≠ "stderr")
    (now id : String) (before after : List Event) :
    let first := h.run now (.bindRequest id :: before.map .emit)
    let second := first.1.run now (after.map .emit ++ [.unbindRequest])
    ∀ d ∈ first.2 ++ second.2, d.destination ≠ destination := by
  have opening : ∀ a ∈ Action.bindRequest id :: before.map Action.emit, a.InRequest := by
    simp [Action.InRequest]
  have closing : ∀ a ∈ after.map Action.emit ++ [Action.unbindRequest], a.InRequest := by
    simp only [List.forall_mem_append, List.forall_mem_map, List.forall_mem_singleton]
    exact ⟨fun _ _ => trivial, trivial⟩
  have hfirst := run_avoids now avoids herror opening
  have hsecond := run_avoids now hfirst.1 herror closing
  exact List.forall_mem_append.mpr ⟨hfirst.2, hsecond.2⟩

theorem Hub.requestId_run_unbind {now : String} (h : Hub) (actions : List Action) :
    (h.run now (actions ++ [.unbindRequest])).1.requestId = none := by
  induction actions generalizing h with
  | nil => rfl
  | cons a rest ih => exact ih _

end Avoids
end Log

namespace Tracing

theorem Tracer.provider_shutdown (t : Tracer) {raised : Option Raised}
    (h : ∀ r, raised = some r → r.isError = true) :
    (t.shutdown raised).tracer.provider = none := by
  fun_cases Tracer.shutdown t raised with
  | case1 _ free => exact free
  | case2 => rfl
  | case3 => rfl
  | case4 _ r _ request => exact absurd (h r rfl) request

end Tracing

namespace Command
open Log Tracing

/-- Where no log line goes to the standard output, the document stands there alone. -/
theorem Outcome.stdout_eq {o : Outcome} (h : ∀ d ∈ o.deliveries, d.destination ≠ "stdout") :
    o.stdout = o.document.elim "" (· ++ "\n") := by
  have hlines : o.linesTo "stdout" = [] := by
    have hnone : o.deliveries.filter (fun d => d.destination == "stdout") = [] := by
      simpa [List.filter_eq_nil_iff] using h
    rw [linesTo, hnone, List.map_nil]
  unfold stdout
  rw [hlines]
  cases o.document <;> simp

/-- Extraction with tracing and log: nothing goes to the standard output, and afterwards neither a
request nor a provider is left. -/
theorem extractLogged_eq {w : Surroundings} {p : Process} {settings : Settings} {ms : Int}
    (avoids : p.hub.Avoids "stdout")
    (traces : (p.tracer.init w.environment (some settings.telemetry) w.exporterAvailable
      w.build).fault = none)
    (clock : w.elapsed = .ok ms) (path text : String) (includePrivate : Bool) : ∃ lines process,
      extractLogged w p settings path text includePrivate =
        (.ok (extract (Utf8.encode text) (w.parse text) includePrivate ms), lines, process) ∧
      (∀ d ∈ lines, d.destination ≠ "stdout") ∧ process.hub.requestId = none ∧
      process.tracer.provider = none := by
  simp only [extractLogged, traces, clock]
  refine ⟨_, _, rfl, Hub.request_avoids avoids (by decide) _ _ _ _, Hub.requestId_run_unbind _ _,
    Tracer.provider_shutdown _ ?_⟩
  intro r hr
  obtain ⟨reason, -, rfl⟩ := Option.map_eq_some_iff.mp hr
  rfl

namespace Invocation

def filesFound (w : Surroundings) (settings : Settings) : Files :=
  (w.files.openAll (logFiles settings.logging)).1

def response (i : Invocation) (w : Surroundings) (settings : Settings) (text : String) (ms : Int) :
    Response :=
  extract (Utf8.encode text) (w.parse text) (i.choice.getD settings.extract.includePrivate) ms

/-- What a call shows of an outline: one record for each module, or the whole tree. -/
def content (i : Invocation) (r : Response) : Value :=
  if i.modules then .arr ((flattenModules r.file).map ModuleSummary.toValue) else r.toValue

def document (i : Invocation) (w : Surroundings) (r : Response) : Except Failure String :=
  (w.encode (if i.pretty then some 2 else none) (i.content r)).mapError Failure.serialization

/-- A call finds settings and reads a text from the bytes of its file. -/
structure Reads (w : Surroundings) (i : Invocation) (settings : Settings) (bytes : Utf8.Bytes)
    (text : String) : Prop where
  loads : (i.sources w).load = .ok settings
  opens : (filesFound w settings).read i.file = .ok bytes
  decodes : ∃ content, Utf8.decodeStrict bytes = .ok content ∧
    text = String.ofList (Text.unifyNewlines content.toList)

/-- The document that a call has to print: there are settings, a file in UTF-8 and an outline that
can be encoded. -/
inductive Prints (w : Surroundings) (ms : Int) (i : Invocation) : String → Prop
  | mk {settings : Settings} {bytes : Utf8.Bytes} {text output : String}
      (reads : i.Reads w settings bytes text)
      (encodes : i.document w (i.response w settings text ms) = .ok output) :
      Prints w ms i output

/-- All that is not up to the settings, the file and the encoder goes well: under the settings that
are loaded no log goes to the standard output, the log files can be opened and tracing can be set
up; and the clock runs. -/
structure Orderly (w : Surroundings) (p : Process) (ms : Int) (i : Invocation) : Prop where
  quiet : ∀ settings, (i.sources w).load = .ok settings →
    ∀ o ∈ settings.logging.outputs, o.destination ≠ "stdout"
  opens : ∀ settings, (i.sources w).load = .ok settings →
    (w.files.openAll (logFiles settings.logging)).2.2 = none
  traces : ∀ settings, (i.sources w).load = .ok settings →
    (p.tracer.init w.environment (some settings.telemetry) w.exporterAvailable w.build).fault =
      none
  clock : w.elapsed = .ok ms

end Invocation

/-- An outcome prints one of the documents that are due, or nothing, and keeps no state that was not
there before. -/
structure Outcome.Settles (o : Outcome) (p : Process) (due : String → Prop) : Prop where
  zero_iff : o.exitCode = 0 ↔ ∃ output, due output
  printed : ∀ output, due output → o.stdout = output ++ "\n"
  silent : o.exitCode ≠ 0 → o.stdout = ""
  unbound : p.hub.requestId = none → o.process.hub.requestId = none
  released : p.tracer.provider = none → o.process.tracer.provider = none

namespace Outcome.Settles
variable {o : Outcome} {p : Process} {due : String → Prop}

theorem of_failure (code : o.exitCode ≠ 0) (document : o.document = none)
    (deliveries : ∀ d ∈ o.deliveries, d.destination ≠ "stdout")
    (unbound : p.hub.requestId = none → o.process.hub.requestId = none)
    (released : p.tracer.provider = none → o.process.tracer.provider = none)
    (undue : ∀ output, ¬ due output) : o.Settles p due where
  zero_iff := ⟨fun h => absurd h code, fun ⟨output, h⟩ => absurd h (undue output)⟩
  printed output h := absurd h (undue output)
  silent _ := by rw [stdout_eq deliveries, document]; rfl
  unbound := unbound
  released := released

theorem of_success {output : String} (code : o.exitCode = 0) (document : o.document = some output)
    (deliveries : ∀ d ∈ o.deliveries, d.destination ≠ "stdout")
    (unbound : o.process.hub.requestId = none) (released : o.process.tracer.provider = none)
    (due_iff : ∀ text, due text ↔ text = output) : o.Settles p due where
  zero_iff := ⟨fun _ => ⟨output, (due_iff output).mpr rfl⟩, fun _ => code⟩
  printed text h := by rw [stdout_eq deliveries, document, (due_iff text).mp h]; rfl
  silent h := absurd code h
  unbound _ := unbound
  released _ := released

theorem withOpened (h : o.Settles p due) (opened : List String) :
    Settles { o with opened } p due :=
  ⟨h.zero_iff, h.printed, h.silent, h.unbound, h.released⟩

end Outcome.Settles

theorem misused_settles {p q : Process} {due : String → Prop} (e : UsageError)
    (hub : q.hub.requestId = p.hub.requestId) (tracer : q.tracer = p.tracer)
    (undue : ∀ output, ¬ due output) : (misused q e).Settles p due := by
  unfold misused
  split
  all_goals exact .of_failure nofun rfl nofun (hub ▸ id) (tracer ▸ id) undue

theorem loadFailed_settles {p : Process} {due : String → Prop} (e : LoadError)
    (undue : ∀ output, ¬ due output) : (loadFailed p e).Settles p due := by
  unfold loadFailed
  split
  all_goals exact .of_failure nofun rfl nofun id id undue

theorem readSource_eq_ok {files : Files} {path text : String} : readSource files path = .ok text ↔
    ∃ bytes, files.read path = .ok bytes ∧ ∃ content, Utf8.decodeStrict bytes = .ok content ∧
      text = String.ofList (Text.unifyNewlines content.toList) := by
  unfold readSource
  cases files.read path with
  | error e => simp
  | ok bytes => cases hd : Utf8.decodeStrict bytes <;> simp [hd, eq_comm]

namespace Invocation
variable {w : Surroundings} {p : Process} {ms : Int} {i : Invocation} {settings : Settings}

theorem checkConfig_of_load (loads : (i.sources w).load = .ok settings) :
    checkConfig w.files i.config = .ok () := by
  unfold checkConfig
  split
  next path hpath =>
    obtain ⟨bytes, hfile⟩ := Sources.explicit_file_of_load loads hpath
    cases hrefused : notFolder w.files "--config" path with
    | ok => rfl
    | error e => exact absurd hfile (find_of_refused hrefused bytes)
  next => rfl

/-- With the settings known, reading and encoding decide what is due. -/
theorem prints_iff (loads : (i.sources w).load = .ok settings) {output : String} :
    i.Prints w ms output ↔ ∃ text, readSource (filesFound w settings) i.file = .ok text ∧
      i.document w (i.response w settings text ms) = .ok output := by
  constructor
  · rintro ⟨reads, encodes⟩
    obtain rfl := Except.ok.inj (reads.loads.symm.trans loads)
    exact ⟨_, readSource_eq_ok.mpr ⟨_, reads.opens, reads.decodes⟩, encodes⟩
  · rintro ⟨text, htext, encodes⟩
    obtain ⟨bytes, opens, decodes⟩ := readSource_eq_ok.mp htext
    exact .mk ⟨loads, opens, decodes⟩ encodes

theorem document_request (w : Surroundings) (i : Invocation) (r : Response) :
    Command.document w i.request r = i.document w r := by
  unfold Command.document document content
  cases h : i.modules with
  | true =>
    rw [if_pos (show i.request.modules = true from h)]
    rfl
  | false =>
    rw [if_neg (show ¬ i.request.modules = true by simp [request, h])]
    rfl

/-- A file is read, outlined and printed, unless reading or encoding fails. -/
theorem runParse_settles {q : Process} {due : String → Prop} (avoids : q.hub.Avoids "stdout")
    (traces : (q.tracer.init w.environment (some settings.telemetry) w.exporterAvailable
      w.build).fault = none)
    (clock : w.elapsed = .ok ms) (hub : q.hub.requestId = p.hub.requestId)
    (tracer : q.tracer = p.tracer)
    (due_iff : ∀ output, due output ↔ ∃ text, readSource w.files i.file = .ok text ∧
      i.document w (i.response w settings text ms) = .ok output) :
    (runParse w q settings i.request).Settles p due := by
  unfold runParse
  cases hread : readSource w.files i.request.path with
  | error reason =>
    refine .of_failure nofun rfl nofun (hub ▸ id) (tracer ▸ id) fun output h => ?_
    obtain ⟨text, htext, _⟩ := (due_iff output).mp h
    cases hread.symm.trans htext
  | ok text =>
    have due_text (output : String) :
        due output ↔ i.document w (i.response w settings text ms) = .ok output := by
      rw [due_iff]
      constructor
      · rintro ⟨other, hother, h⟩
        obtain rfl := Except.ok.inj (hread.symm.trans hother)
        exact h
      · intro h
        exact ⟨text, hread, h⟩
    obtain ⟨lines, process, hlogged, hlines, hunbound, hreleased⟩ :=
      extractLogged_eq avoids traces clock i.request.path text
        (i.request.includePrivate.getD settings.extract.includePrivate)
    have hdocument : Command.document w i.request (extract (Utf8.encode text) (w.parse text)
        (i.request.includePrivate.getD settings.extract.includePrivate) ms) =
        i.document w (i.response w settings text ms) := document_request w i _
    simp only [hlogged, hdocument]
    cases hencode : i.document w (i.response w settings text ms) with
    | ok output =>
      refine .of_success rfl rfl hlines hunbound hreleased fun other => ?_
      simp [due_text, hencode, eq_comm]
    | error f =>
      refine .of_failure nofun rfl hlines (fun _ => hunbound) (fun _ => hreleased) fun other => ?_
      simp [due_text, hencode]

theorem runCommand_settles (orderly : i.Orderly w p ms)
    (loads : (i.sources w).load = .ok settings) {rest : List String}
    (asks : ∀ files, parseRequest files rest =
      (notFolder files "PATH" i.path).map fun _ => i.request) :
    (runCommand w p i.verbose settings rest).Settles p (i.Prints w ms) := by
  have hopens := orderly.opens settings loads
  unfold runCommand
  generalize hlogging : (if i.verbose then { settings.logging with level := .debug }
    else settings.logging) = logging
  have houtputs : logging.outputs = settings.logging.outputs := by
    rw [← hlogging]
    split <;> rfl
  have hfiles : logFiles logging = logFiles settings.logging := by rw [logFiles, houtputs, logFiles]
  have havoids : (p.hub.configure logging).Avoids "stdout" := by
    refine ⟨rfl, fun s hs => ?_⟩
    obtain ⟨o, ho, rfl⟩ := List.mem_map.mp hs
    exact orderly.quiet settings loads o (houtputs ▸ ho)
  simp only [hfiles, hopens, asks]
  refine Outcome.Settles.withOpened ?_ _
  cases hrefused : notFolder (w.files.openAll (logFiles settings.logging)).1 "PATH" i.path with
  | error e =>
    refine misused_settles e rfl rfl fun output h => ?_
    obtain ⟨_, htext, _⟩ := (prints_iff loads).mp h
    obtain ⟨bytes, opens, _⟩ := readSource_eq_ok.mp htext
    exact find_of_refused hrefused bytes (Files.find_of_read opens)
  | ok =>
    exact runParse_settles (w := { w with files := filesFound w settings })
      (q := { p with hub := p.hub.configure logging })
      havoids (orderly.traces settings loads) orderly.clock rfl rfl fun _ => prints_iff loads

theorem run_settles_of_load {args : List String} (spelled : i.Spelled args)
    (orderly : i.Orderly w p ms) (loads : (i.sources w).load = .ok settings) :
    (run w p args).Settles p (i.Prints w ms) := by
  obtain ⟨rest, hrequest, asks⟩ := spelled.exists_rest
  unfold run
  rw [hrequest, checkConfig_of_load loads]
  have settled := runCommand_settles orderly loads asks
  unfold sources at loads
  simpa only [Except.map, loads] using settled

theorem run_settles_of_not_load {args : List String} {e : LoadError} (spelled : i.Spelled args)
    (fails : (i.sources w).load = .error e) : (run w p args).Settles p (i.Prints w ms) := by
  have undue (output : String) : ¬ i.Prints w ms output := by
    rintro ⟨reads, -⟩
    cases fails.symm.trans reads.loads
  cases accepted : checkConfig w.files i.config with
  | error refused =>
    obtain ⟨rest, hrequest, _⟩ := spelled.exists_rest
    unfold run
    rw [hrequest, accepted]
    exact misused_settles refused rfl rfl undue
  | ok =>
    rw [spelled.run_of_load_error p accepted fails]
    exact loadFailed_settles e undue

end Invocation

/-- Where all else goes well, a call of the `parse` command succeeds exactly if there are settings, a
file in UTF-8 and an outline that can be encoded. Then the standard output is the document of that
outline and a newline, whatever was logged; otherwise it is empty. Neither a request nor a provider
is left behind. -/
theorem command_prints_document_or_nothing {w : Surroundings} {p : Process} {ms : Int}
    {i : Invocation} {args : List String} (spelled : i.Spelled args) (orderly : i.Orderly w p ms) :
    (run w p args).Settles p (i.Prints w ms) := by
  cases hload : (i.sources w).load with
  | error e => exact Invocation.run_settles_of_not_load spelled hload
  | ok settings => exact Invocation.run_settles_of_load spelled orderly hload

namespace LoggedRun

/-- A file with a declaration and a syntax error, under settings that log to a file. -/
def text : String := "pub mod a;\n\x7d"

def source : Utf8.Bytes := Utf8.encode text

private abbrev node := Node.ofRange source
private abbrev token := Node.token source

def stray : Node := { node "ERROR" none 11 12 [token "\x7d" 11 12] with hasError := true }

def tree : Node := { node "source_file" none 0 12 [
  node "mod_item" none 0 10 [
    node "visibility_modifier" none 0 3 [token "pub" 0 3], token "mod" 4 7,
    node "identifier" (some "name") 8 9 [], token ";" 9 10],
  stray] with hasError := true }

def surroundings : Surroundings where
  files := .ofNames ["work"] [
    ("own.yaml", .file (Utf8.encode "logging:\n  outputs:\n    - destination: /log/run.log\n")),
    ("a.rs", .file source)]
  yaml := Yaml.reader
  homes := { own := "/home/tester" }
  globalPath := "/etc/all.yaml"
  parse _ := tree
  now := "now"
  freshId := "id"

def call : Invocation where
  verbose := true
  config := some "own.yaml"
  pretty := true
  modules := true
  path := "a.rs"

def settings : Settings where
  logging := { outputs := [{ destination := "/log/run.log" }] }

theorem load_toOption : (call.sources surroundings).load.toOption = some settings := by
  decide +kernel

theorem load_sources : (call.sources surroundings).load = .ok settings :=
  Sources.load_eq_ok_of_toOption load_toOption

theorem orderly : call.Orderly surroundings {} 0 := by
  have only (other : Settings) (h : (call.sources surroundings).load = .ok other) :
      other = settings := Except.ok.inj (h.symm.trans load_sources)
  constructor
  · intro other h
    rw [only other h]
    decide
  · intro other h
    rw [only other h]
    decide +kernel
  · intro other h
    rw [only other h]
    decide
  · rfl

def reference : ModuleReference where
  name := "a"
  visibility := .everywhere
  expectedPaths := ["a.rs", "a/mod.rs"]
  span := ⟨0, 10, 1, 1, 1, 11⟩

def value : Value := .arr [ModuleSummary.toValue ⟨"", "", [], [reference], none⟩]

def printed : String := "[
  \x7b
    \"path\": \"\",
    \"name\": \"\",
    \"items\": [],
    \"moduleReferences\": [
      \x7b
        \"name\": \"a\",
        \"visibility\": \"pub\",
        \"expectedPaths\": [
          \"a.rs\",
          \"a/mod.rs\"
        ],
        \"span\": \x7b
          \"start\": 0,
          \"end\": 10,
          \"startLine\": 1,
          \"startColumn\": 1,
          \"endLine\": 1,
          \"endColumn\": 11
        \x7d
      \x7d
    ],
    \"span\": null
  \x7d
]"

theorem fileScope_tree : fileScope source false tree = ⟨[], [reference]⟩ := by
  rw [fileScope_eq_join]
  rfl

theorem content_eq : call.content (call.response surroundings settings text 0) = value := by
  have hfile : (call.response surroundings settings text 0).file = ⟨[], [reference]⟩ := fileScope_tree
  have hmodules : flattenModules ⟨[], [reference]⟩ = [⟨"", "", [], [reference], none⟩] := by
    simp [flattenModules, ModuleSummary.pending, ModuleSummary.list, ModuleSummary.ofRoot]
  rw [Invocation.content, if_pos (show call.modules = true from rfl), hfile, hmodules]
  rfl

set_option maxRecDepth 4096 in
theorem render_value : String.ofList (Json.render (some 2) value) = printed := by
  rfl

theorem document_eq :
    call.document surroundings (call.response surroundings settings text 0) = .ok printed := by
  have hobstacle : Json.obstacle? {} 0 value = none := by decide +kernel
  have hprint : Json.print {} (some 2) value = .ok printed := by
    rw [Json.print, hobstacle, render_value]
  have hencode : surroundings.encode = Json.print {} := rfl
  rw [Invocation.document, content_eq, hencode, if_pos (show call.pretty = true from rfl), hprint]
  rfl

theorem reads : call.Reads surroundings settings source text where
  loads := load_sources
  opens := by rfl
  decodes := ⟨text, Utf8.decodeStrict_eq_ok.mpr rfl, by decide +kernel⟩

theorem outline_printed : call.Spelled call.args ∧ call.Orderly surroundings {} 0 ∧
    call.Prints surroundings 0 printed ∧
    (run surroundings {} call.args).stdout = printed ++ "\n" := by
  have due : call.Prints surroundings 0 printed := .mk reads document_eq
  have settles := command_prints_document_or_nothing call.spelled_args orderly
  exact ⟨call.spelled_args, orderly, due, settles.printed printed due⟩

end LoggedRun
end Command
end RustOutline
