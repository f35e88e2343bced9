import RustOutline.Settings.Load

/-! What a check that succeeds has found: one equivalence for each record of the settings, over the
checks of its fields. Settings that are loaded have passed these checks. -/
namespace RustOutline

theorem map_eq_ok {ε α β : Type} {a : Except ε α} {f : α → β} {y : β} :
    a.map f = .ok y ↔ ∃ x, a = .ok x ∧ f x = y := by
  cases a <;> simp [Except.map]

theorem mapError_eq_ok {ε δ α : Type} {a : Except ε α} {f : ε → δ} {x : α} :
    a.mapError f = .ok x ↔ a = .ok x := by
  constructor
  · intro h
    cases a with
    | error e => cases h
    | ok y =>
      cases h
      rfl
  · rintro rfl
    rfl

theorem bind_eq_ok {ε α β : Type} {a : Except ε α} {f : α → Except ε β} {y : β} :
    a >>= f = .ok y ↔ ∃ x, a = .ok x ∧ f x = .ok y := by
  cases a <;> simp [bind, Except.bind]

/-- What every step keeps, a loop keeps that ends well. -/
theorem foldlM_induction {ε α β : Type} {P : β → Prop} {f : β → α → Except ε β} {xs : List α}
    {b c : β} (hstep : ∀ b x c, P b → f b x = .ok c → P c) (hb : P b)
    (h : xs.foldlM f b = .ok c) : P c := by
  induction xs generalizing b with
  | nil =>
    cases h
    exact hb
  | cons x xs ih =>
    rw [List.foldlM_cons] at h
    obtain ⟨d, hd, h⟩ := bind_eq_ok.mp h
    exact ih (hstep b x d hb hd) h

namespace Check
variable {α β : Type}

theorem both_eq_ok {a : Check α} {b : Check β} {x : α} {y : β} :
    a.both b = .ok (x, y) ↔ a = .ok x ∧ b = .ok y := by
  cases a <;> cases b <;> simp [both]

theorem map_record {a : Check α} {f : α → β} {g : β → α} {y : β} (hfg : ∀ x, g (f x) = x)
    (hgf : ∀ y, f (g y) = y) : a.map f = .ok y ↔ a = .ok (g y) := by
  refine map_eq_ok.trans ⟨?_, fun h => ⟨g y, h, hgf y⟩⟩
  rintro ⟨x, hx, rfl⟩
  rw [hx, hfg]

theorem fail_ne_ok {loc : Location} {complaint : Complaint} {v : Value} {x : α} :
    (fail loc complaint v : Check α) ≠ .ok x := nofun

theorem field_of_none {fs : Fields} {name : String} (h : Fields.get? name fs = none)
    (loc : Location) (default : α) (check : Location → Value → Check α) :
    field fs loc name default check = .ok default := by
  rw [field, h]

theorem field_of_some {fs : Fields} {name : String} {v : Value} (h : Fields.get? name fs = some v)
    (loc : Location) (default : α) (check : Location → Value → Check α) :
    field fs loc name default check = check (loc ++ [.key name]) v := by
  rw [field, h]

theorem field_induction {P : α → Prop} {fs : Fields} {loc : Location} {name : String}
    {default : α} {check : Location → Value → Check α} {x : α}
    (hdefault : P default) (hcheck : ∀ loc v x, check loc v = .ok x → P x)
    (h : field fs loc name default check = .ok x) : P x := by
  unfold field at h
  split at h
  · cases h
    exact hdefault
  · exact hcheck _ _ _ h

theorem items_induction {P : α → Prop} {loc : Location} {check : Location → Value → Check α}
    {i : Nat} {vs : List Value} {xs : List α} (hcheck : ∀ loc v x, check loc v = .ok x → P x)
    (h : items loc check i vs = .ok xs) : ∀ x ∈ xs, P x := by
  induction vs generalizing i xs with
  | nil =>
    cases h
    exact fun _ hx => absurd hx List.not_mem_nil
  | cons v vs ih =>
    obtain ⟨⟨x, rest⟩, hboth, rfl⟩ := map_eq_ok.mp h
    obtain ⟨hx, hrest⟩ := both_eq_ok.mp hboth
    exact List.forall_mem_cons.mpr ⟨hcheck _ _ _ hx, ih hrest⟩

theorem items_map {f : α → Value} {check : Location → Value → Check α} {xs : List α}
    (h : ∀ x ∈ xs, ∀ loc, check loc (f x) = .ok x) (loc : Location) (i : Nat) :
    items loc check i (xs.map f) = .ok xs := by
  induction xs generalizing i with
  | nil => rfl
  | cons x xs ih =>
    obtain ⟨hx, hxs⟩ := List.forall_mem_cons.mp h
    exact map_eq_ok.mpr ⟨(x, xs), both_eq_ok.mpr ⟨hx _, ih hxs _⟩, rfl⟩

end Check
open Check

variable {homes : Homes} {loc : Location} {v : Value} {fs : Fields}

theorem LogOutput.check_eq_ok {o : LogOutput} : LogOutput.check homes loc v = .ok o ↔
    ∃ fs, v = .obj fs ∧
      field fs loc "format" .console (checkName LogFormat.all LogFormat.name) = .ok o.format ∧
      field fs loc "destination" "stderr" (checkDestination homes) = .ok o.destination ∧
      field fs loc "level" none checkOptionalLevel = .ok o.level := by
  cases v <;> simp [LogOutput.check, fail_ne_ok, both_eq_ok,
    map_record (g := fun o : LogOutput => (o.format, o.destination, o.level))]

theorem LoggingSettings.check_eq_ok {s : LoggingSettings} :
    LoggingSettings.check homes loc v = .ok s ↔
      ∃ fs, v = .obj fs ∧ field fs loc "level" .warning checkLevel = .ok s.level ∧
        field fs loc "outputs" [{}] (checkOutputs homes) = .ok s.outputs := by
  cases v <;> simp [LoggingSettings.check, fail_ne_ok, both_eq_ok,
    map_record (g := fun s : LoggingSettings => (s.level, s.outputs))]

theorem ExtractSettings.check_eq_ok {s : ExtractSettings} :
    ExtractSettings.check loc v = .ok s ↔
      ∃ fs, v = .obj fs ∧ field fs loc "include_private" false checkBool = .ok s.includePrivate ∧
        field fs loc "edition" .e2024 checkEdition = .ok s.edition := by
  cases v <;> simp [ExtractSettings.check, fail_ne_ok, both_eq_ok,
    map_record (g := fun s : ExtractSettings => (s.includePrivate, s.edition))]

theorem TelemetrySettings.check_eq_ok {s : TelemetrySettings} :
    TelemetrySettings.check loc v = .ok s ↔
      ∃ fs, v = .obj fs ∧ field fs loc "enabled" false checkBool = .ok s.enabled ∧
        field fs loc "otlp_endpoint" none checkEndpoint = .ok s.otlpEndpoint ∧
        field fs loc "service_name" "rustsyms" checkText = .ok s.serviceName := by
  cases v <;> simp [TelemetrySettings.check, fail_ne_ok, both_eq_ok,
    map_record (g := fun s : TelemetrySettings => (s.enabled, s.otlpEndpoint, s.serviceName))]

theorem Settings.checkFields_eq_ok {s : Settings} : Settings.checkFields homes loc fs = .ok s ↔
    field fs loc "logging" {} (LoggingSettings.check homes) = .ok s.logging ∧
      field fs loc "extract" {} ExtractSettings.check = .ok s.extract ∧
      field fs loc "telemetry" {} TelemetrySettings.check = .ok s.telemetry := by
  simp [Settings.checkFields, both_eq_ok,
    map_record (g := fun s : Settings => (s.logging, s.extract, s.telemetry))]

theorem Settings.checkFields_of_checkStrict {s : Settings}
    (h : Settings.checkStrict homes fs = .ok s) : Settings.checkFields homes [] fs = .ok s := by
  obtain ⟨⟨s, _⟩, hboth, rfl⟩ := map_eq_ok.mp h
  exact (both_eq_ok.mp hboth).1

/-- Settings that can be compared tell whether loading gives them. -/
theorem Sources.load_eq_ok_of_toOption {s : Sources} {settings : Settings}
    (h : s.load.toOption = some settings) : s.load = .ok settings := by
  cases hload : s.load with
  | error e => simp [hload, Except.toOption] at h
  | ok loaded => simpa [hload, Except.toOption] using h

theorem Sources.load_of_merged {s : Sources} {fs : Fields} (h : s.merged = .ok fs) : s.load =
    if fs.any (fun f => f.1.text?.isNone) then .error .unnamed
    else match Settings.checkStrict s.homes fs with
      | .ok settings => .ok settings
      | .error issues =>
        .error (if issues.toList.any (fun i => i.complaint == .unknownHome) then .unknownHome
          else issues.first.loadError) := by
  rw [load, h]
  simp only [bind, Except.bind, pure, Except.pure, throw, throwThe, MonadExceptOf.throw]
  split
  · rfl
  cases Settings.checkStrict s.homes fs with
  | ok settings => rfl
  | error issues => dsimp only; split <;> rfl

theorem Sources.checkStrict_of_load {s : Sources} {settings : Settings}
    (h : s.load = .ok settings) :
    ∃ fs, s.merged = .ok fs ∧ Settings.checkStrict s.homes fs = .ok settings := by
  obtain ⟨fs, hmerged, h⟩ := bind_eq_ok.mp h
  refine ⟨fs, hmerged, ?_⟩
  dsimp only at h
  split at h
  · cases h
  · split at h
    next hcheck =>
      cases h
      exact hcheck
    next => split at h <;> cases h

end RustOutline
