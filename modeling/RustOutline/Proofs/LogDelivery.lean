import Mathlib.Data.List.Flatten
import Mathlib.Data.List.Forall2
import RustOutline.Command.Run
import RustOutline.Log.Call
import RustOutline.Proofs.FieldNames

/-! The last configuration of a log decides alone who gets which events. Each output gets those at or
above the level of the whole log and its own, and a lower level of the log takes nothing from any
output. -/
namespace RustOutline

/-- The settings with the level of the whole log at its lowest. -/
def LoggingSettings.verbose (s : LoggingSettings) : LoggingSettings := { s with level := .debug }

namespace Level

theorem debug_le (l : Level) : debug.number ≤ l.number := by
  cases l <;> decide

theorem numberOf_name (l : Level) (default : Int) : numberOf (some l.name) default = l.number := by
  cases l <;> rfl

theorem numberOf_map_name (l : Option Level) (default : Level) :
    numberOf (l.map name) default.number = (l.getD default).number := by
  cases l with
  | none => rfl
  | some l => exact numberOf_name l _

end Level

namespace Log

/-- The larger of the level of the log and the output's own, which it may have from the log. -/
def threshold (s : LoggingSettings) (o : LogOutput) : Nat :=
  max s.level.number (o.level.getD s.level).number

/-- The events at or above a severity, in order. -/
def atLeast (least : Nat) (events : List Event) : List Event :=
  events.filter fun e => least ≤ e.severity

/-- What is written about an event names it, its level and the time, whatever its fields are. -/
theorem Event.entry_tells (requestId : Option String) (now : String) (e : Event) :
    Fields.get? "event" (e.entry requestId now) = some (.str e.message) ∧
      Fields.get? "level" (e.entry requestId now) = some (.str e.label) ∧
      Fields.get? "timestamp" (e.entry requestId now) = some (.str now) := by
  unfold entry
  cases requestId with
  | none => simp [Fields.get?_put, Key.ident]
  | some id =>
    have hid (told : Fields) :
        Fields.get? "event" (Fields.putNew "request_id" (.str id) told) = Fields.get? "event" told :=
      Fields.get?_putNew_of_ne (by simp [Key.ident]) _ told
    simp [Fields.get?_put, Key.ident, hid]

/-- Who gets an event: an output of the configuration, known by its place there, or the last resort
of a log without outputs. -/
inductive Receiver where
  | output (place : Nat)
  | lastResort
deriving DecidableEq

structure Receipt where
  receiver : Receiver
  event : Event

def receivedBy (receiver : Receiver) (receipts : List Receipt) : List Event :=
  (receipts.filter fun r => r.receiver = receiver).map Receipt.event

def outputLine (o : LogOutput) (entry : Fields) : Line :=
  match o.format with
  | .json => .record entry
  | .console => .text (console {} entry)

def resortLine (e : Event) (entry : Fields) : Line :=
  .text (if e.structured then Value.literal (.obj entry) else e.message)

/-- What is written for a receipt, and where. -/
inductive Writes (s : LoggingSettings) (entry : Event → Fields) : Receipt → Delivery → Prop
  | output {place : Nat} {o : LogOutput} {e : Event} (configured : s.outputs[place]? = some o) :
      Writes s entry ⟨.output place, e⟩ ⟨o.destination, outputLine o (entry e)⟩
  | lastResort {e : Event} :
      Writes s entry ⟨.lastResort, e⟩ ⟨"stderr", resortLine e (entry e)⟩

/-- Receipts that account for all lines that some events cause: one line for each receipt, each
output with its share of the events, and the last resort with a share only if there is no output. -/
structure Accounts (s : LoggingSettings) (entry : Event → Fields) (events : List Event)
    (receipts : List Receipt) (lines : List Delivery) : Prop where
  written : List.Forall₂ (Writes s entry) receipts lines
  outputs : ∀ place o, s.outputs[place]? = some o →
    receivedBy (.output place) receipts = atLeast (threshold s o) events
  lastResort : receivedBy .lastResort receipts =
    if s.outputs = [] then atLeast (max s.level.number Level.warning.number) events else []

section Shares
variable {s : LoggingSettings} {entry : Event → Fields}

theorem atLeast_append (least : Nat) (es fs : List Event) :
    atLeast least (es ++ fs) = atLeast least es ++ atLeast least fs :=
  List.filter_append ..

theorem receivedBy_append (receiver : Receiver) (rs ts : List Receipt) :
    receivedBy receiver (rs ++ ts) = receivedBy receiver rs ++ receivedBy receiver ts := by
  simp [receivedBy]

theorem Accounts.nil : Accounts s entry [] [] [] where
  written := .nil
  outputs _ _ _ := rfl
  lastResort := by simp [receivedBy, atLeast]

theorem Accounts.append {es fs : List Event} {rs ts : List Receipt} {ls ms : List Delivery}
    (h : Accounts s entry es rs ls) (h' : Accounts s entry fs ts ms) :
    Accounts s entry (es ++ fs) (rs ++ ts) (ls ++ ms) where
  written := List.rel_append h.written h'.written
  outputs place o ho := by
    rw [receivedBy_append, atLeast_append, h.outputs place o ho, h'.outputs place o ho]
  lastResort := by
    rw [receivedBy_append, atLeast_append, h.lastResort, h'.lastResort]
    split <;> rfl

end Shares

section OneEvent
variable {s : LoggingSettings} {e : Event}

/-- Something that an event causes if it is severe enough. -/
def ifAtLeast {α : Type} (least : Nat) (e : Event) (x : α) : List α :=
  if least ≤ e.severity then [x] else []

theorem atLeast_singleton (least : Nat) (e : Event) : atLeast least [e] = ifAtLeast least e e := by
  simp [atLeast, ifAtLeast, List.filter_singleton]

theorem ifAtLeast_sublist {α : Type} {low high : Nat} (h : low ≤ high) (e : Event) (x : α) :
    (ifAtLeast high e x).Sublist (ifAtLeast low e x) := by
  unfold ifAtLeast
  split
  · next hhigh => rw [if_pos (Nat.le_trans h hhigh)]
  · exact List.nil_sublist _

/-- The lines of an event in a log with some settings: every output gets its share, and if there is
none, the last resort gets one. -/
def shares (s : LoggingSettings) (e : Event) (entry : Fields) : List Delivery :=
  if s.outputs = [] then
    ifAtLeast (max s.level.number Level.warning.number) e ⟨"stderr", resortLine e entry⟩
  else s.outputs.flatMap fun o =>
    ifAtLeast (threshold s o) e ⟨o.destination, outputLine o entry⟩

theorem shares_of_lt {entry : Fields} (low : e.severity < s.level.number) :
    shares s e entry = [] := by
  have hnone {α : Type} {least : Nat} (h : s.level.number ≤ least) (x : α) :
      ifAtLeast least e x = [] := if_neg (by omega)
  unfold shares
  split
  · rw [hnone (Nat.le_max_left _ _)]
  · exact List.flatMap_eq_nil_iff.mpr fun o _ => hnone (Nat.le_max_left _ _) _

theorem deliver?_ofOutput (o : LogOutput) (e : Event) (entry : Fields) :
    ((Sink.ofOutput s.level.number o).deliver? e.severity entry).toList =
      ifAtLeast (o.level.getD s.level).number e ⟨o.destination, outputLine o entry⟩ := by
  rw [Sink.deliver?, apply_ite Option.toList, Sink.ofOutput, Level.numberOf_map_name,
    Int.toNat_natCast]
  rfl

/-- The standard log of a hub that was configured does what the settings say. -/
theorem Hub.route_configure (h : Hub) (s : LoggingSettings) (e : Event) (entry : Fields) :
    (h.configure s).route e entry = shares s e entry := by
  have hlevel : (h.configure s).rootLevel = s.level.number := by
    simp [configure, Level.numberOf_name]
  have hhandlers : (h.configure s).handlers = s.outputs.map (Sink.ofOutput s.level.number) := by
    simp [configure, Level.numberOf_name]
  unfold route
  rw [hlevel, hhandlers]
  split
  · next low => exact (shares_of_lt low).symm
  · next enough =>
    have hown {α : Type} (least : Nat) (x : α) :
        ifAtLeast (max s.level.number least) e x = ifAtLeast least e x := by
      unfold ifAtLeast
      congr 1
      exact propext ⟨fun h => by omega, fun h => by omega⟩
    simp only [shares, threshold, hown, List.isEmpty_map, List.isEmpty_iff]
    split
    · rfl
    · rw [List.filterMap_map, List.filterMap_eq_flatMap_toList]
      exact List.flatMap_congr fun o _ => deliver?_ofOutput o e entry

/-- The level of the loggers, that of the standard log and those of the handlers come to one
threshold for each output. -/
theorem Hub.deliver_configure (h : Hub) (s : LoggingSettings) (now : String) (e : Event) :
    (h.configure s).deliver now e = shares s e (e.entry h.requestId now) := by
  have hwrapper : (h.configure s).wrapper = some s.level.number := by
    simp [configure, Level.numberOf_name]
  have hid : (h.configure s).requestId = h.requestId := rfl
  simp only [deliver, hwrapper, hid, route_configure]
  split
  · split
    · next low => exact (shares_of_lt low).symm
    · rfl
  · rfl

/-- The receipts of some outputs for one event; the first output has the given place. -/
def receiptsFrom (s : LoggingSettings) (e : Event) (i : Nat) : List LogOutput → List Receipt
  | [] => []
  | o :: os => ifAtLeast (threshold s o) e ⟨.output i, e⟩ ++ receiptsFrom s e (i + 1) os

theorem receivedBy_ifAtLeast (receiver other : Receiver) (least : Nat) (e : Event) :
    receivedBy receiver (ifAtLeast least e ⟨other, e⟩) =
      if other = receiver then ifAtLeast least e e else [] := by
  unfold ifAtLeast receivedBy
  split <;> split <;> simp_all

theorem receivedBy_receiptsFrom_of_lt {place i : Nat} (h : place < i) (os : List LogOutput) :
    receivedBy (.output place) (receiptsFrom s e i os) = [] := by
  induction os generalizing i with
  | nil => rfl
  | cons o os ih =>
    have hne : Receiver.output i ≠ .output place := by
      intro heq
      cases heq
      omega
    rw [receiptsFrom, receivedBy_append, receivedBy_ifAtLeast, if_neg hne, ih (by omega),
      List.append_nil]

theorem receivedBy_receiptsFrom {os : List LogOutput} {i k : Nat} {o : LogOutput}
    (h : os[k]? = some o) :
    receivedBy (.output (i + k)) (receiptsFrom s e i os) = ifAtLeast (threshold s o) e e := by
  induction os generalizing i k with
  | nil => cases h
  | cons first os ih =>
    rw [receiptsFrom, receivedBy_append, receivedBy_ifAtLeast]
    cases k with
    | zero =>
      obtain rfl := Option.some.inj h
      rw [receivedBy_receiptsFrom_of_lt (by omega)]
      simp
    | succ k =>
      have hne : Receiver.output i ≠ .output (i + (k + 1)) := by
        intro heq
        cases heq
      rw [if_neg hne, List.nil_append, ← ih h, Nat.add_right_comm, Nat.add_assoc]

theorem receivedBy_lastResort_receiptsFrom (i : Nat) (os : List LogOutput) :
    receivedBy .lastResort (receiptsFrom s e i os) = [] := by
  induction os generalizing i with
  | nil => rfl
  | cons o os ih =>
    rw [receiptsFrom, receivedBy_append, receivedBy_ifAtLeast, if_neg nofun, ih, List.append_nil]

theorem written_ifAtLeast {entry : Event → Fields} {receiver : Receiver} {line : Delivery}
    (h : Writes s entry ⟨receiver, e⟩ line) (least : Nat) :
    List.Forall₂ (Writes s entry) (ifAtLeast least e ⟨receiver, e⟩) (ifAtLeast least e line) := by
  unfold ifAtLeast
  split
  · exact .cons h .nil
  · exact .nil

theorem written_receiptsFrom (entry : Event → Fields) (before os : List LogOutput)
    (h : s.outputs = before ++ os) :
    List.Forall₂ (Writes s entry) (receiptsFrom s e before.length os)
      (os.flatMap fun o =>
        ifAtLeast (threshold s o) e ⟨o.destination, outputLine o (entry e)⟩) := by
  induction os generalizing before with
  | nil => exact .nil
  | cons o os ih =>
    have configured : s.outputs[before.length]? = some o := by simp [h]
    have hrest := ih (before ++ [o]) (by simp [h])
    rw [List.length_append] at hrest
    rw [receiptsFrom, List.flatMap_cons]
    exact List.rel_append (written_ifAtLeast (.output configured) _) hrest

theorem exists_accounts_shares (s : LoggingSettings) (entry : Event → Fields) (e : Event) :
    ∃ receipts, Accounts s entry [e] receipts (shares s e (entry e)) := by
  unfold shares
  by_cases hs : s.outputs = []
  · refine ⟨ifAtLeast (max s.level.number Level.warning.number) e ⟨.lastResort, e⟩, ?_, ?_, ?_⟩
    · rw [if_pos hs]
      exact written_ifAtLeast .lastResort _
    · simp [hs]
    · rw [receivedBy_ifAtLeast, if_pos rfl, if_pos hs, atLeast_singleton]
  · refine ⟨receiptsFrom s e 0 s.outputs, ?_, ?_, ?_⟩
    · rw [if_neg hs]
      exact written_receiptsFrom entry [] s.outputs rfl
    · intro place o ho
      rw [atLeast_singleton, ← receivedBy_receiptsFrom ho, Nat.zero_add]
    · rw [receivedBy_lastResort_receiptsFrom, if_neg hs]

end OneEvent

/-- A configured log takes every call whose fields keep off the names of parameters. -/
theorem Hub.refusal?_eq_none {h : Hub} {c : Call} (configured : h.wrapper.isSome = true)
    (free : ∀ f ∈ Fields.named c.fields, f.1 ∉ ["self", "event", "method_name"]) :
    h.refusal? c = none := by
  have hfind : ((Fields.named c.fields).map Prod.fst).find?
      (fun name => name == "self" || name == "event") = none := by
    refine List.find?_eq_none.mpr (List.forall_mem_map.mpr fun f hf => ?_)
    have := free f hf
    simp_all
  have hmethod : ((Fields.named c.fields).map Prod.fst).contains "method_name" = false := by
    refine Bool.eq_false_iff.mpr fun h => ?_
    obtain ⟨f, hf, hname⟩ := List.mem_map.mp (List.contains_iff_mem.mp h)
    exact free f hf (by simp [hname])
  have hclash (least : Nat) : c.clash? least = none := by
    simp only [Call.clash?, hfind, hmethod, Bool.and_false, Bool.false_eq_true, if_false]
  obtain ⟨least, hwrapper⟩ := Option.isSome_iff_exists.mp configured
  simp [refusal?, hclash, hwrapper]

/-- What extraction logs comes from calls that a configured log takes. -/
theorem exists_call_of_mem_journal {r : Response} {filePath : Option String} {edition : String}
    {includePrivate : Bool} {e : Event} (h : e ∈ r.journal filePath edition includePrivate) :
    ∃ c : Call, c.event = e ∧ ∀ hub : Hub, hub.wrapper.isSome = true → hub.refusal? c = none := by
  obtain h | h := List.mem_append.mp h
  · obtain ⟨d, -, rfl⟩ := List.mem_map.mp h
    let c : Call := {
      logger := journalName, method := "warning", message := "rust_syntax_error"
      fields := (d.event filePath).fields }
    refine ⟨c, rfl, fun hub configured => Hub.refusal?_eq_none configured ?_⟩
    simp [c, Diagnostic.event, Event.ofLogger, Fields.named, Key.text?]
  · obtain rfl := List.mem_singleton.mp h
    let c : Call := {
      logger := journalName, method := "debug", message := "rust_file_extracted"
      fields := (r.summaryEvent filePath edition includePrivate).fields }
    refine ⟨c, rfl, fun hub configured => Hub.refusal?_eq_none configured ?_⟩
    simp [c, Response.summaryEvent, Event.ofLogger, Fields.named, Key.text?]

section Runs
variable {now : String}

theorem Hub.run_append (h : Hub) (first second : List Action) :
    h.run now (first ++ second) =
      (((h.run now first).1.run now second).1,
        (h.run now first).2 ++ ((h.run now first).1.run now second).2) := by
  induction first generalizing h with
  | nil => rfl
  | cons a rest ih => simp [run, ih, List.append_assoc]

theorem Hub.run_emit (h : Hub) (events : List Event) :
    h.run now (events.map .emit) = (h, events.flatMap (h.deliver now)) := by
  induction events with
  | nil => rfl
  | cons e events ih => simp [run, step, ih]

/-- The lines of some events in a log that is configured for the first time. -/
def freshLines (now : String) (requestId : Option String) (s : LoggingSettings)
    (events : List Event) : List Delivery :=
  (({ requestId } : Hub).run now (.configure s :: events.map .emit)).2

/-- Nothing but the request is left of what a hub was before it is configured. -/
theorem Hub.run_configure (h : Hub) (s : LoggingSettings) (events : List Event) :
    (h.run now (.configure s :: events.map .emit)).2 =
      events.flatMap fun e => shares s e (e.entry h.requestId now) := by
  simp only [run, step, run_emit, List.nil_append]
  exact List.flatMap_congr fun e _ => h.deliver_configure s now e

theorem freshLines_eq (requestId : Option String) (s : LoggingSettings) (events : List Event) :
    freshLines now requestId s events = events.flatMap fun e => shares s e (e.entry requestId now) :=
  Hub.run_configure _ s events

theorem exists_accounts (requestId : Option String) (s : LoggingSettings) (events : List Event) :
    ∃ receipts, Accounts s (Event.entry requestId now) events receipts
      (freshLines now requestId s events) := by
  rw [freshLines_eq]
  induction events with
  | nil => exact ⟨[], .nil⟩
  | cons e events ih =>
    obtain ⟨first, hfirst⟩ := exists_accounts_shares s (Event.entry requestId now) e
    obtain ⟨rest, hrest⟩ := ih
    exact ⟨first ++ rest, hfirst.append hrest⟩

end Runs

section Verbose
variable {h h' : Hub}

theorem threshold_verbose_le (s : LoggingSettings) (o : LogOutput) :
    threshold s.verbose o ≤ threshold s o := by
  unfold threshold LoggingSettings.verbose
  have hlevel := Level.debug_le s.level
  cases o.level with
  | none => simpa using hlevel
  | some own =>
    exact Nat.max_le.mpr ⟨Nat.le_trans hlevel (Nat.le_max_left _ _), Nat.le_max_right _ _⟩

theorem atLeast_sublist {low high : Nat} (h : low ≤ high) (events : List Event) :
    (atLeast high events).Sublist (atLeast low events) := by
  refine List.monotone_filter_right events fun e he => ?_
  exact decide_eq_true (Nat.le_trans h (of_decide_eq_true he))

theorem shares_verbose_sublist (s : LoggingSettings) (e : Event) (entry : Fields) :
    (shares s e entry).Sublist (shares s.verbose e entry) := by
  have houtputs : s.verbose.outputs = s.outputs := rfl
  unfold shares
  rw [houtputs]
  split
  · have hlevel : s.verbose.level.number ≤ s.level.number := Level.debug_le s.level
    exact ifAtLeast_sublist (by omega) e _
  · exact .flatMap_right _ fun o _ => ifAtLeast_sublist (threshold_verbose_le s o) e _

/-- Hubs that are the same, or were configured alike but for the level of the whole log, which is the
lowest in the second. -/
def Hub.Hushes (h h' : Hub) : Prop :=
  h = h' ∨ ∃ (g : Hub) (s : LoggingSettings), h = g.configure s ∧ h' = g.configure s.verbose

theorem Hub.configure_configure (h : Hub) (s t : LoggingSettings) :
    (h.configure s).configure t = h.configure t := by
  simp only [configure]

theorem Hub.configure_requestId (h : Hub) (s : LoggingSettings) (id : Option String) :
    { h.configure s with requestId := id } = ({ h with requestId := id } : Hub).configure s := by
  simp only [configure]

/-- One action keeps the relation and costs no line. -/
theorem Hub.Hushes.step (hushes : h.Hushes h') (now : String) (a : Action) :
    (h.step now a).1.Hushes (h'.step now a).1 ∧ (h.step now a).2.Sublist (h'.step now a).2 := by
  obtain rfl | ⟨g, s, rfl, rfl⟩ := hushes
  · exact ⟨.inl rfl, .refl _⟩
  cases a with
  | configure t =>
    simp only [Hub.step, Hub.configure_configure]
    exact ⟨.inl rfl, .slnil⟩
  | bindRequest id =>
    simp only [Hub.step, Hub.configure_requestId]
    exact ⟨.inr ⟨_, s, rfl, rfl⟩, .slnil⟩
  | unbindRequest =>
    simp only [Hub.step, Hub.configure_requestId]
    exact ⟨.inr ⟨_, s, rfl, rfl⟩, .slnil⟩
  | emit e =>
    refine ⟨.inr ⟨g, s, rfl, rfl⟩, ?_⟩
    rw [Hub.step, Hub.step, Hub.deliver_configure, Hub.deliver_configure]
    exact shares_verbose_sublist s e _

theorem Hub.Hushes.run (hushes : h.Hushes h') (now : String) (actions : List Action) :
    (h.run now actions).1.Hushes (h'.run now actions).1 ∧
      (h.run now actions).2.Sublist (h'.run now actions).2 := by
  induction actions generalizing h h' with
  | nil => exact ⟨hushes, .slnil⟩
  | cons a rest ih =>
    have hstep := hushes.step now a
    have hrest := ih hstep.1
    exact ⟨hrest.1, hstep.2.append hrest.2⟩

theorem Hub.hushes_configure (h : Hub) (s : LoggingSettings) :
    (h.configure s).Hushes (h.configure s.verbose) :=
  .inr ⟨h, s, rfl, rfl⟩

end Verbose
end Log

namespace Command
open Log Tracing

theorem extractLogged_hushes (w : Surroundings) {hub hub' : Hub} (hushes : hub.Hushes hub')
    (tracer : Tracer) (settings : Settings) (path text : String) (includePrivate : Bool) :
    let quiet := extractLogged w ⟨hub, tracer⟩ settings path text includePrivate
    let loud := extractLogged w ⟨hub', tracer⟩ settings path text includePrivate
    quiet.1 = loud.1 ∧ quiet.2.1.Sublist loud.2.1 := by
  have hopening := hushes.run w.now (.bindRequest w.freshId ::
    ((tracer.init w.environment (some settings.telemetry) w.exporterAvailable w.build).notices.map
      Notice.event).map .emit)
  unfold extractLogged
  dsimp only
  split
  · exact ⟨rfl, hopening.2⟩
  · exact ⟨rfl, hopening.2.append (hopening.1.run w.now _).2⟩

theorem runParse_hushes (w : Surroundings) {hub hub' : Hub} (hushes : hub.Hushes hub')
    (tracer : Tracer) (settings : Settings) (request : ParseRequest) :
    (runParse w ⟨hub, tracer⟩ settings request).deliveries.Sublist
      (runParse w ⟨hub', tracer⟩ settings request).deliveries := by
  unfold runParse
  cases readSource w.files request.path with
  | error reason => exact .slnil
  | ok text =>
    obtain ⟨hresponse, hlines⟩ := extractLogged_hushes w hushes tracer settings request.path text
      (request.includePrivate.getD settings.extract.includePrivate)
    dsimp only
    rw [hresponse]
    split
    · exact hlines
    · split <;> exact hlines

theorem runCommand_verbose_sublist (w : Surroundings) (p : Process) (settings : Settings)
    (args : List String) :
    (runCommand w p false settings args).deliveries.Sublist
      (runCommand w p true settings args).deliveries := by
  have hfiles : logFiles { settings.logging with level := .debug } = logFiles settings.logging := rfl
  have hushes := p.hub.hushes_configure settings.logging
  simp only [runCommand, if_true, Bool.false_eq_true, if_false, hfiles]
  split
  · exact .slnil
  · cases parseRequest (w.files.openAll (logFiles settings.logging)).1 args with
    | error e => cases e <;> exact .slnil
    | ok request =>
      dsimp only
      split
      · exact .slnil
      · exact runParse_hushes _ hushes p.tracer settings request

/-- Whatever was done to a log before, the lines that it writes after it is configured are those of a
log that is configured for the first time, and they are exactly the shares of its outputs. The lowest
level for the whole log takes no line away, in particular not from a run of the command. -/
theorem last_configuration_decides (now : String) (h : Hub) (earlier : List Action)
    (last : LoggingSettings) (events : List Event) :
    let requestId := (h.run now earlier).1.requestId
    let lines := freshLines now requestId last events
    (h.run now (earlier ++ .configure last :: events.map .emit)).2 =
        (h.run now earlier).2 ++ lines ∧
      (∃ receipts, Accounts last (Event.entry requestId now) events receipts lines) ∧
      lines.Sublist (freshLines now requestId last.verbose events) ∧
      (∀ o, (atLeast (threshold last o) events).Sublist
        (atLeast (threshold last.verbose o) events)) ∧
      ∀ w p settings args, (runCommand w p false settings args).deliveries.Sublist
        (runCommand w p true settings args).deliveries := by
  intro requestId lines
  have hlines : lines = events.flatMap fun e => shares last e (e.entry requestId now) :=
    freshLines_eq requestId last events
  refine ⟨?_, exists_accounts requestId last events, ?_, fun o => ?_, runCommand_verbose_sublist⟩
  · rw [Hub.run_append, Hub.run_configure, hlines]
  · rw [hlines, freshLines_eq]
    exact .flatMap_right _ fun e _ => shares_verbose_sublist last e _
  · exact atLeast_sublist (threshold_verbose_le last o) events

end Command
end RustOutline
