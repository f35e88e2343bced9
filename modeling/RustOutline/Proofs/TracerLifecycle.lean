import Mathlib.Data.List.Induction
import RustOutline.Tracing.Tracer

/-! The life of a tracer over any sequence of calls: a provider is installed at most once, by the
first call that sets up, and shut down at most once after that. Every call finds an environment,
settings, an exporter and a builder of its own. Nothing is assumed of the builder. -/
namespace RustOutline.Tracing

/-- A call to a tracer, with what it finds. -/
inductive Call where
  | init (env : Environment) (config : Option TelemetrySettings) (exporterAvailable : Bool)
      (build : Builder)
  | shutdown (raised : Option Raised)

namespace Call

def isInit : Call → Bool
  | .init _ _ _ _ => true
  | .shutdown _ => false

/-- Shutting down raises something that is no error, as a request to stop the program. -/
def isInterrupted : Call → Bool
  | .shutdown (some r) => !r.isError
  | _ => false

def apply (t : Tracer) : Call → Change
  | .init env config exporterAvailable build => t.init env config exporterAvailable build
  | .shutdown raised => t.shutdown raised

end Call

/-- The changes that calls make one after another. -/
def changes (t : Tracer) : List Call → List Change
  | [] => []
  | call :: rest => call.apply t :: changes (call.apply t).tracer rest

/-- The tracer after some calls. -/
def after (t : Tracer) (calls : List Call) : Tracer :=
  calls.foldl (fun t call => (call.apply t).tracer) t

def installations (calls : List Call) : Nat :=
  (changes {} calls).countP fun change => change.installed.isSome

def closings (calls : List Call) : Nat :=
  (changes {} calls).countP fun change => change.exporter.contains .closed

/-- The variable for the endpoint is set to something. -/
def NamesEndpoint (env : Environment) : Prop :=
  ∃ endpoint, env.get? endpointVariable = some endpoint ∧ endpoint ≠ ""

/-- Tracing is enabled, and there are an endpoint and an exporter. -/
structure Equipped (env : Environment) (config : Option TelemetrySettings) (available : Bool) :
    Prop where
  enabled : NamesEndpoint env ∨ ∃ c, config = some c ∧ c.enabled = true
  endpoint : NamesEndpoint env ∨ ∃ c e, config = some c ∧ c.otlpEndpoint = some e ∧ e ≠ ""
  exporter : available = true

/-- Making the provider, its processor and its exporter succeeds. -/
def Builds (env : Environment) (config : Option TelemetrySettings) (build : Builder) : Prop :=
  ∃ plan provider, plan? env config = some plan ∧ build env plan = .provider provider

def Call.Ready : Call → Prop
  | .init env config available build => Equipped env config available ∧ Builds env config build
  | .shutdown _ => False

section Conditions
variable {env : Environment} {config : Option TelemetrySettings} {available : Bool}

theorem isSome_given?_iff : (given? env endpointVariable).isSome = true ↔ NamesEndpoint env := by
  unfold given? NamesEndpoint
  cases env.get? endpointVariable <;> simp [Option.filter, bne_iff_ne]

theorem isEnabled_iff : isEnabled env config = true ↔
    NamesEndpoint env ∨ ∃ c, config = some c ∧ c.enabled = true := by
  rw [isEnabled, Bool.or_eq_true, isSome_given?_iff]
  cases config <;> simp

theorem isSome_plan?_iff : (plan? env config).isSome = true ↔
    NamesEndpoint env ∨ ∃ c e, config = some c ∧ c.otlpEndpoint = some e ∧ e ≠ "" := by
  rw [← isSome_given?_iff, plan?, Option.isSome_map, endpoint?]
  cases hg : given? env endpointVariable with
  | some endpoint => simp
  | none =>
    cases config with
    | none => simp
    | some c => cases hc : c.otlpEndpoint <;> simp [hc, Option.filter]

theorem equipped_iff : Equipped env config available ↔
    isEnabled env config = true ∧ (plan? env config).isSome = true ∧ available = true := by
  rw [isEnabled_iff, isSome_plan?_iff]
  exact ⟨fun h => ⟨h.enabled, h.endpoint, h.exporter⟩, fun h => ⟨h.1, h.2.1, h.2.2⟩⟩

end Conditions

/-- What calls do to a tracer. A set-up does nothing after another one; otherwise it installs a
provider exactly if all is there and one can be made, and it is broken off exactly if all is there
and none can be made. A shutdown lets a provider go, unless it is interrupted. -/
inductive Call.Makes (t : Tracer) : Call → Change → Prop
  | repeated {env : Environment} {config : Option TelemetrySettings} {available : Bool}
      {build : Builder} {notices : List Notice} (set : t.initialized = true) :
      Makes t (.init env config available build)
        { tracer := t, notices, active := t.isActive }
  | installed {env : Environment} {config : Option TelemetrySettings} {available : Bool}
      {build : Builder} {provider : Provider} {notices : List Notice} {endpoint : String}
      {insecure : Bool} (fresh : t.initialized = false) (equipped : Equipped env config available)
      (builds : Builds env config build) :
      Makes t (.init env config available build)
        { tracer := { initialized := true, provider := some provider }, notices,
          exporter := [.opened endpoint insecure], installed := some provider, active := true }
  | declined {env : Environment} {config : Option TelemetrySettings} {available : Bool}
      {build : Builder} {notices : List Notice} (fresh : t.initialized = false)
      (missing : ¬ Equipped env config available) :
      Makes t (.init env config available build)
        { tracer := { t with initialized := true }, notices }
  | broken {env : Environment} {config : Option TelemetrySettings} {available : Bool}
      {build : Builder} {notices : List Notice} {exporter : List ExporterEvent} {r : Raised}
      (fresh : t.initialized = false) (equipped : Equipped env config available)
      (fails : ¬ Builds env config build) (running : .closed ∉ exporter) :
      Makes t (.init env config available build)
        { tracer := { t with initialized := true }, notices, exporter, fault := some r }
  | idle {raised : Option Raised} (free : t.provider = none) :
      Makes t (.shutdown raised) { tracer := t, notices := [] }
  | released {raised : Option Raised} {notices : List Notice} (held : t.provider.isSome = true)
      (ends : (Call.shutdown raised).isInterrupted = false) :
      Makes t (.shutdown raised)
        { tracer := { t with provider := none }, notices, exporter := [.closed] }
  | interrupted {r : Raised} (held : t.provider.isSome = true) (request : r.isError = false) :
      Makes t (.shutdown (some r))
        { tracer := t, notices := [], exporter := [.closed], fault := some r }

theorem makes_init (t : Tracer) (env : Environment) (config : Option TelemetrySettings)
    (available : Bool) (build : Builder) :
    (Call.init env config available build).Makes t (t.init env config available build) := by
  fun_cases Tracer.init t env config available build with
  | case1 set => exact .repeated set
  | case2 fresh _ off =>
    refine .declined (by simpa using fresh) fun equipped => ?_
    simp [(equipped_iff.mp equipped).1] at off
  | case3 fresh _ _ absent =>
    refine .declined (by simpa using fresh) fun equipped => ?_
    simpa [absent] using (equipped_iff.mp equipped).2.1
  | case4 fresh _ _ _ _ off =>
    refine .declined (by simpa using fresh) fun equipped => ?_
    simp [equipped.exporter] at off
  | case5 fresh _ on plan hplan present opening opened r hbuild =>
    have equipped : Equipped env config available :=
      equipped_iff.mpr ⟨by simpa using on, by simp [hplan], by simpa using present⟩
    refine .broken (by simpa using fresh) equipped (fun builds => ?_) ?_
    · obtain ⟨other, provider, hother, hprovider⟩ := builds
      obtain rfl := Option.some.inj (hplan.symm.trans hother)
      cases hbuild.symm.trans hprovider
    · cases opened <;> simp [opening]
  | case6 fresh _ on plan hplan present opening provider hbuild =>
    have equipped : Equipped env config available :=
      equipped_iff.mpr ⟨by simpa using on, by simp [hplan], by simpa using present⟩
    exact .installed (by simpa using fresh) equipped ⟨plan, provider, hplan, hbuild⟩

theorem makes_shutdown (t : Tracer) (raised : Option Raised) :
    (Call.shutdown raised).Makes t (t.shutdown raised) := by
  fun_cases Tracer.shutdown t raised with
  | case1 _ free => exact .idle free
  | case2 _ held => exact .released (by simp [held]) rfl
  | case3 _ r held error =>
    exact .released (by simp [held]) (by simpa [Call.isInterrupted] using error)
  | case4 _ r held request => exact .interrupted (by simp [held]) (by simpa using request)

theorem makes_apply (t : Tracer) (call : Call) : call.Makes t (call.apply t) := by
  cases call with
  | init env config available build => exact makes_init t env config available build
  | shutdown raised => exact makes_shutdown t raised

namespace Call.Makes
variable {t : Tracer} {call : Call} {change : Change}

section AnyCall
variable (made : call.Makes t change)
include made

/-- Only what is held is shut down. -/
theorem held_of_closed (closing : .closed ∈ change.exporter) : t.provider.isSome = true := by
  cases made with
  | released held | interrupted held => exact held
  | repeated | installed | declined | idle => simp at closing
  | broken _ _ _ running => exact absurd closing running

theorem isSome_installed_iff :
    change.installed.isSome = true ↔ t.initialized = false ∧ call.Ready := by
  cases made with
  | repeated set => simp [set]
  | installed fresh equipped builds => simp [Ready, fresh, equipped, builds]
  | declined fresh missing => simp [Ready, missing]
  | broken fresh equipped fails => simp [Ready, fails]
  | idle | released | interrupted => simp [Ready]

theorem provider_of_installed {provider : Provider} (installed : change.installed = some provider) :
    change.tracer.provider = some provider := by
  cases made with
  | installed => exact installed
  | repeated | declined | broken | idle | released | interrupted => cases installed

theorem spent (set : t.initialized = true) (free : t.provider = none) :
    change.tracer.initialized = true ∧ change.tracer.provider = none := by
  cases made with
  | repeated | idle | released | interrupted => simp [set, free]
  | installed fresh | declined fresh | broken fresh =>
    rw [set] at fresh
    cases fresh

end AnyCall

section SetUp
variable {env : Environment} {config : Option TelemetrySettings} {available : Bool}
  {build : Builder} (made : (Call.init env config available build).Makes t change)
include made

/-- A set-up that ends tells whether a provider is held then. -/
theorem active_iff (guarded : t.initialized = false → t.provider = none)
    (ends : change.fault = none) :
    change.active = true ↔ change.tracer.provider.isSome = true := by
  cases made with
  | repeated => rfl
  | installed => simp
  | declined fresh => simp [guarded fresh]
  | broken => cases ends

theorem isSome_fault_iff : change.fault.isSome = true ↔
    t.initialized = false ∧ Equipped env config available ∧ ¬ Builds env config build := by
  cases made with
  | repeated set => simp [set]
  | installed fresh equipped builds => simp [builds]
  | declined fresh missing => simp [missing]
  | broken fresh equipped fails => simp [fresh, equipped, fails]

end SetUp

section ShutDown
variable {raised : Option Raised} (made : (Call.shutdown raised).Makes t change)
include made

theorem stopped (ends : (Call.shutdown raised).isInterrupted = false) :
    change.tracer.initialized = t.initialized ∧ change.tracer.provider = none := by
  cases made with
  | idle free => exact ⟨rfl, free⟩
  | released => exact ⟨rfl, rfl⟩
  | interrupted _ request => simp [isInterrupted, request] at ends

theorem tracer_of_isInterrupted (broken : (Call.shutdown raised).isInterrupted = true) :
    change.tracer = t := by
  cases made with
  | idle | interrupted => rfl
  | released _ ends => cases ends.symm.trans broken

end ShutDown

end Call.Makes

section Run
variable {t : Tracer} {calls : List Call} {call : Call}

theorem after_concat : after t (calls ++ [call]) = (call.apply (after t calls)).tracer := by
  simp [after]

theorem changes_concat :
    changes t (calls ++ [call]) = changes t calls ++ [call.apply (after t calls)] := by
  induction calls generalizing t with
  | nil => rfl
  | cons first rest ih =>
    rw [List.cons_append, changes, changes, ih, List.cons_append]
    rfl

theorem installations_concat : installations (calls ++ [call]) =
    installations calls + if (call.apply (after {} calls)).installed.isSome then 1 else 0 := by
  rw [installations, changes_concat, List.countP_append, List.countP_singleton, installations]

theorem closings_concat : closings (calls ++ [call]) =
    closings calls +
      if (call.apply (after {} calls)).exporter.contains .closed then 1 else 0 := by
  rw [closings, changes_concat, List.countP_append, List.countP_singleton, closings]

/-- A tracer and its history: the guard is set by the first set-up, before that there is no
provider, and only what was installed is held. Without interruptions a provider is held from its
installation to its shutdown. -/
structure Balanced (calls : List Call) : Prop where
  guard : (after {} calls).initialized = true ↔ ∃ c ∈ calls, c.isInit = true
  fresh : (after {} calls).initialized = false →
    (after {} calls).provider = none ∧ installations calls = 0
  once : installations calls ≤ 1
  held : (after {} calls).provider.isSome = true → installations calls = 1
  balance : (∀ c ∈ calls, c.isInterrupted = false) → installations calls =
    closings calls + if (after {} calls).provider.isSome then 1 else 0

theorem balanced_nil : Balanced [] where
  guard := by simp [after]
  fresh _ := ⟨rfl, rfl⟩
  once := by decide
  held := nofun
  balance _ := rfl

theorem Balanced.guard_concat (h : Balanced calls)
    (flag : (call.apply (after {} calls)).tracer.initialized =
      ((after {} calls).initialized || call.isInit)) :
    (after {} (calls ++ [call])).initialized = true ↔ ∃ c ∈ calls ++ [call], c.isInit = true := by
  rw [after_concat, flag, Bool.or_eq_true, h.guard]
  simp [or_and_right, exists_or]

/-- A call that leaves the provider alone, and shuts nothing down unless it is interrupted, keeps the
balance. -/
theorem Balanced.concat_of_kept (h : Balanced calls)
    (flag : (call.apply (after {} calls)).tracer.initialized =
      ((after {} calls).initialized || call.isInit))
    (kept : (call.apply (after {} calls)).tracer.provider = (after {} calls).provider)
    (none : (call.apply (after {} calls)).installed = none)
    (running : call.isInterrupted = false → .closed ∉ (call.apply (after {} calls)).exporter) :
    Balanced (calls ++ [call]) where
  guard := h.guard_concat flag
  fresh unset := by
    rw [after_concat, flag, Bool.or_eq_false_iff] at unset
    obtain ⟨free, count⟩ := h.fresh unset.1
    exact ⟨by rw [after_concat, kept, free], by simp [installations_concat, none, count]⟩
  once := by simpa [installations_concat, none] using h.once
  held := by simpa [installations_concat, after_concat, none, kept] using h.held
  balance ends := by
    obtain ⟨before, last⟩ := List.forall_mem_append.mp ends
    have running := running (last call List.mem_cons_self)
    simpa [installations_concat, closings_concat, after_concat, none, running, kept] using
      h.balance before

theorem Balanced.concat (h : Balanced calls) (call : Call) : Balanced (calls ++ [call]) := by
  have made := makes_apply (after {} calls) call
  generalize happly : call.apply (after {} calls) = change at made
  cases made with
  | repeated set =>
    exact h.concat_of_kept (by simp [happly, set]) (by simp [happly]) (by simp [happly])
      (by simp [happly])
  | installed fresh =>
    obtain ⟨free, count⟩ := h.fresh fresh
    refine ⟨h.guard_concat (by simp [happly, Call.isInit]), by simp [after_concat, happly], ?_, ?_,
      fun ends => ?_⟩
    · simp [installations_concat, happly, count]
    · simp [installations_concat, happly, count]
    · have running : closings calls = 0 := by
        simpa [count, free] using (h.balance (List.forall_mem_append.mp ends).1).symm
      simp [installations_concat, closings_concat, after_concat, happly, count, running]
  | declined =>
    exact h.concat_of_kept (by simp [happly, Call.isInit]) (by simp [happly]) (by simp [happly])
      (by simp [happly])
  | broken _ _ _ running =>
    exact h.concat_of_kept (by simp [happly, Call.isInit]) (by simp [happly]) (by simp [happly])
      (fun _ => by simpa [happly] using running)
  | idle =>
    exact h.concat_of_kept (by simp [happly, Call.isInit]) (by simp [happly]) (by simp [happly])
      (by simp [happly])
  | released held =>
    refine ⟨h.guard_concat (by simp [happly, Call.isInit]), fun unset => ?_, ?_, ?_,
      fun ends => ?_⟩
    · -- a provider is only held behind the guard
      rw [after_concat, happly] at unset
      rw [(h.fresh unset).1] at held
      cases held
    · simpa [installations_concat, happly] using h.once
    · simp [after_concat, happly]
    · simpa [installations_concat, closings_concat, after_concat, happly, held] using
        h.balance (List.forall_mem_append.mp ends).1
  | interrupted _ request =>
    exact h.concat_of_kept (by simp [happly, Call.isInit]) (by simp [happly]) (by simp [happly])
      (by simp [Call.isInterrupted, request])

theorem balanced (calls : List Call) : Balanced calls := by
  induction calls using List.reverseRecOn with
  | nil => exact balanced_nil
  | append_singleton calls call ih => exact ih.concat call

theorem fresh_iff : (after {} calls).initialized = false ↔ ∀ c ∈ calls, c.isInit = false := by
  rw [← Bool.not_eq_true, (balanced calls).guard]
  simp

/-- A set-up is broken off exactly if it is the first one and has all it needs, but no provider can be
made. -/
theorem isSome_fault_init_iff {earlier : List Call} {env : Environment}
    {config : Option TelemetrySettings} {available : Bool} {build : Builder} :
    ((after {} earlier).init env config available build).fault.isSome = true ↔
      (∀ c ∈ earlier, c.isInit = false) ∧ Equipped env config available ∧
        ¬ Builds env config build := by
  rw [(makes_init _ env config available build).isSome_fault_iff, fresh_iff]

theorem after_append (t : Tracer) (earlier later : List Call) :
    after t (earlier ++ later) = after (after t earlier) later :=
  List.foldl_append

theorem provider_after_of_spent (set : t.initialized = true) (free : t.provider = none)
    (calls : List Call) : (after t calls).provider = none := by
  induction calls generalizing t with
  | nil => exact free
  | cons call rest ih =>
    have spent := (makes_apply t call).spent set free
    exact ih spent.1 spent.2

end Run

/-- The life of a tracer: what holds after some calls, and of the one that comes next. -/
structure Lifecycle (earlier : List Call) : Prop where
  once : installations earlier ≤ 1
  /-- Where no shutdown is interrupted, each one follows an installation of its own. -/
  closed : (∀ c ∈ earlier, c.isInterrupted = false) → closings earlier ≤ installations earlier
  /-- Only what was installed is shut down. -/
  closes : ∀ call : Call, .closed ∈ (call.apply (after {} earlier)).exporter →
    installations earlier = 1
  /-- Only the first set-up installs a provider, and it does so exactly if all is ready. -/
  installs : ∀ call : Call, (call.apply (after {} earlier)).installed.isSome = true ↔
    (∀ c ∈ earlier, c.isInit = false) ∧ call.Ready
  /-- What is installed is held. -/
  holds : ∀ (call : Call) (provider : Provider),
    (call.apply (after {} earlier)).installed = some provider →
    (call.apply (after {} earlier)).tracer.provider = some provider
  /-- After a shutdown behind the first set-up nothing is held any more, unless it was
  interrupted. -/
  ended : ∀ (raised : Option Raised) (later : List Call), (∃ c ∈ earlier, c.isInit = true) →
    (Call.shutdown raised).isInterrupted = false →
    (after {} (earlier ++ .shutdown raised :: later)).provider = none
  /-- An interrupted shutdown changes nothing. -/
  kept : ∀ raised : Option Raised, (Call.shutdown raised).isInterrupted = true →
    after {} (earlier ++ [.shutdown raised]) = after {} earlier
  /-- A set-up that ends tells whether a provider is held then. -/
  told : ∀ (env : Environment) (config : Option TelemetrySettings) (available : Bool)
    (build : Builder), ((after {} earlier).init env config available build).fault = none →
    (((after {} earlier).init env config available build).active = true ↔
      ((after {} earlier).init env config available build).tracer.provider.isSome = true)

/-- Whatever calls are made, a tracer lives at most once. -/
theorem tracer_lifecycle (earlier : List Call) : Lifecycle earlier where
  once := (balanced earlier).once
  closed ends := by
    have balance := (balanced earlier).balance ends
    omega
  closes call closing := by
    have made := makes_apply (after {} earlier) call
    exact (balanced earlier).held (made.held_of_closed closing)
  installs call := by
    rw [(makes_apply (after {} earlier) call).isSome_installed_iff, fresh_iff]
  holds call _ installed := (makes_apply _ call).provider_of_installed installed
  ended raised later before ends := by
    have set : (after {} earlier).initialized = true := (balanced earlier).guard.mpr before
    obtain ⟨flag, free⟩ := (makes_shutdown (after {} earlier) raised).stopped ends
    rw [after_append]
    exact provider_after_of_spent (flag.trans set) free later
  kept raised broken := by
    rw [after_concat]
    exact (makes_shutdown (after {} earlier) raised).tracer_of_isInterrupted broken
  told env config available build ends := by
    have made := makes_init (after {} earlier) env config available build
    exact made.active_iff (fun fresh => ((balanced earlier).fresh fresh).1) ends

namespace BadLimit

/-- An environment with an endpoint, and with a limit that is no number. -/
def environment : Environment :=
  [("OTEL_EXPORTER_OTLP_ENDPOINT", "http://h:1"), ("OTEL_SPAN_ATTRIBUTE_COUNT_LIMIT", "x")]

def call : Call := .init environment none true Builder.standard

def raised : Raised := SetupFault.raised (.limit "OTEL_SPAN_ATTRIBUTE_COUNT_LIMIT" "x")

/-- The first set-up has all it needs, and yet it installs nothing. -/
theorem nothing_installed : Equipped environment none true ∧ (call.apply {}).fault = some raised ∧
    (call.apply {}).installed = none ∧ installations [call] = 0 := by
  have named : NamesEndpoint environment := ⟨"http://h:1", by decide, by decide⟩
  have refused : call.apply {} = {
      tracer := { initialized := true }, notices := [], fault := some raised } := by
    decide +kernel
  refine ⟨⟨.inl named, .inl named, rfl⟩, ?_⟩
  simp [installations, changes, refused]

end BadLimit

end RustOutline.Tracing
