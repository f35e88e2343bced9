import RustOutline.Proofs.CheckedSettings
import RustOutline.Proofs.FieldNames
import RustOutline.Proofs.NormalPaths
import RustOutline.Yaml.Reader

/-! Checked settings are settled: every name is spelled out, every endpoint has its scheme and every
log file its absolute path, and so a second check of what was loaded finds the same again. -/
namespace RustOutline
open Check

/-- The name of a standard stream, or the text of an absolute path in normal form. -/
def IsDestination (s : String) : Prop :=
  s = "stderr" ∨ s = "stdout" ∨ ∃ p : Path, p.Normal ∧ p.isAbsolute ∧ s = p.text

structure LogOutput.Settled (o : LogOutput) : Prop where
  destination : IsDestination o.destination
  level : ∀ l, o.level = some l → l.name ∈ ["DEBUG", "INFO", "WARNING", "ERROR", "CRITICAL"]

/-- What a second check of settings relies on. -/
structure Settings.Settled (s : Settings) : Prop where
  level : s.logging.level.name ∈ ["DEBUG", "INFO", "WARNING", "ERROR", "CRITICAL"]
  outputs : ∀ o ∈ s.logging.outputs, o.Settled
  edition : s.extract.edition.name ∈ ["2015", "2018", "2021", "2024"]
  endpoint : ∀ e, s.telemetry.otlpEndpoint = some e →
    "http://".toList <+: e.toList ∨ "https://".toList <+: e.toList

theorem Level.name_mem (l : Level) :
    l.name ∈ ["DEBUG", "INFO", "WARNING", "ERROR", "CRITICAL"] := by
  cases l <;> decide

theorem Edition.name_mem (e : Edition) : e.name ∈ ["2015", "2018", "2021", "2024"] := by
  cases e <;> decide

variable {homes : Homes} {loc : Location} {v : Value}

theorem isDestination_of_check {s : String} (h : checkDestination homes loc v = .ok s) :
    IsDestination s := by
  unfold checkDestination at h
  split at h
  next t =>
    split at h
    next hstream =>
      cases h
      obtain rfl | rfl : s = "stderr" ∨ s = "stdout" := by simpa using hstream
      · exact .inl rfl
      · exact .inr (.inl rfl)
    next =>
      split at h
      next => cases h
      next path hpath =>
        split at h
        next habsolute =>
          cases h
          exact .inr (.inr ⟨path, (Path.normal_ofText t).expandHome? hpath, habsolute, rfl⟩)
        next => cases h
  next => cases h

theorem LogOutput.settled_of_check {o : LogOutput} (h : LogOutput.check homes loc v = .ok o) :
    o.Settled := by
  obtain ⟨fs, -, -, hdestination, -⟩ := LogOutput.check_eq_ok.mp h
  exact ⟨field_induction (.inl rfl) (fun _ _ _ => isDestination_of_check) hdestination,
    fun l _ => l.name_mem⟩

theorem settled_of_checkOutputs {outputs : List LogOutput}
    (h : checkOutputs homes loc v = .ok outputs) : ∀ o ∈ outputs, o.Settled := by
  unfold checkOutputs at h
  split at h
  · exact items_induction (fun _ _ _ => LogOutput.settled_of_check) h
  · cases h

theorem LogOutput.settled_defaults : ∀ o ∈ [({} : LogOutput)], o.Settled := by
  intro o ho
  rw [List.mem_singleton.mp ho]
  exact ⟨.inl rfl, nofun⟩

theorem isEndpoint_of_check {endpoint : Option String}
    (h : checkEndpoint loc v = .ok endpoint) : ∀ e, endpoint = some e → isEndpoint e := by
  unfold checkEndpoint at h
  split at h
  · cases h
    exact nofun
  next s =>
    split at h
    · cases h
      rintro e ⟨⟩
      assumption
    · cases h
  · cases h

theorem isEndpoint_iff {s : String} :
    isEndpoint s ↔ "http://".toList <+: s.toList ∨ "https://".toList <+: s.toList := by
  simp [isEndpoint, Text.startsWith]

/-- The outputs that a section has or takes by default are settled. -/
theorem LoggingSettings.settled_of_check {s : LoggingSettings}
    (h : LoggingSettings.check homes loc v = .ok s) : ∀ o ∈ s.outputs, o.Settled := by
  obtain ⟨fs, -, -, houtputs⟩ := LoggingSettings.check_eq_ok.mp h
  exact field_induction LogOutput.settled_defaults (fun _ _ _ => settled_of_checkOutputs) houtputs

theorem TelemetrySettings.endpoint_of_check {s : TelemetrySettings}
    (h : TelemetrySettings.check loc v = .ok s) :
    ∀ e, s.otlpEndpoint = some e → isEndpoint e := by
  obtain ⟨fs, -, -, hendpoint, -⟩ := TelemetrySettings.check_eq_ok.mp h
  exact field_induction nofun (fun _ _ _ => isEndpoint_of_check) hendpoint

theorem Settings.settled_of_checkFields {fs : Fields} {s : Settings}
    (h : Settings.checkFields homes loc fs = .ok s) : s.Settled := by
  obtain ⟨hlogging, -, htelemetry⟩ := Settings.checkFields_eq_ok.mp h
  refine ⟨s.logging.level.name_mem, ?_, s.extract.edition.name_mem, fun e he => ?_⟩
  · exact field_induction LogOutput.settled_defaults
      (fun _ _ _ => LoggingSettings.settled_of_check) hlogging
  · exact isEndpoint_iff.mp
      (field_induction nofun (fun _ _ _ => TelemetrySettings.endpoint_of_check) htelemetry e he)

theorem Level.normalize_name (l : Level) : normalize l.name = l.name := by
  cases l <;> decide

theorem checkLevel_name (loc : Location) (l : Level) : checkLevel loc (.str l.name) = .ok l := by
  simp only [checkLevel, Level.normalize_name]
  cases l <;> rfl

theorem checkOptionalLevel_name (loc : Location) (l : Option Level) :
    checkOptionalLevel loc (.text? (l.map Level.name)) = .ok l := by
  cases l with
  | none => rfl
  | some l =>
    have hlevel := checkLevel_name loc l
    simp [checkOptionalLevel, Value.text?, Value.ofOption, Value.isNull, hlevel, Except.map]

theorem checkFormat_name (loc : Location) (f : LogFormat) :
    checkName LogFormat.all LogFormat.name loc (.str f.name) = .ok f := by
  cases f <;> rfl

theorem checkEdition_name (loc : Location) (e : Edition) :
    checkEdition loc (.str e.name) = .ok e := by
  cases e <;> rfl

theorem IsDestination.check {s : String} (h : IsDestination s) (homes : Homes) (loc : Location) :
    checkDestination homes loc (.str s) = .ok s := by
  obtain rfl | rfl | ⟨p, hnormal, habsolute, rfl⟩ := h
  · rfl
  · rfl
  · -- The text starts with a slash, so it names no stream and is read as a path again.
    have hhead := Path.head_text_of_isAbsolute hnormal habsolute
    have hstderr : p.text ≠ "stderr" := by
      intro h
      simp [h] at hhead
    have hstdout : p.text ≠ "stdout" := by
      intro h
      simp [h] at hhead
    simp [checkDestination, hstderr, hstdout, hnormal.ofText_text,
      Path.expandHome?_of_isAbsolute habsolute, habsolute]

theorem checkEndpoint_of_isEndpoint {endpoint : Option String}
    (h : ∀ e, endpoint = some e → isEndpoint e) (loc : Location) :
    checkEndpoint loc (.text? endpoint) = .ok endpoint := by
  cases endpoint with
  | none => rfl
  | some e => simp [Value.text?, Value.ofOption, checkEndpoint, h e rfl]

theorem LogOutput.Settled.check {o : LogOutput} (h : o.Settled) (homes : Homes) (loc : Location) :
    LogOutput.check homes loc o.toValue = .ok o := by
  refine LogOutput.check_eq_ok.mpr ⟨_, rfl, ?_, ?_, ?_⟩
  · simp [field, checkFormat_name]
  · simp [field, h.destination.check]
  · simp [field, checkOptionalLevel_name]

theorem LoggingSettings.check_toValue {s : LoggingSettings} (h : ∀ o ∈ s.outputs, o.Settled)
    (homes : Homes) (loc : Location) : LoggingSettings.check homes loc s.toValue = .ok s := by
  refine LoggingSettings.check_eq_ok.mpr ⟨_, rfl, ?_, ?_⟩
  · simp [field, checkLevel_name]
  · simp [field, checkOutputs, items_map fun o ho loc => (h o ho).check homes loc]

theorem ExtractSettings.check_toValue (s : ExtractSettings) (loc : Location) :
    ExtractSettings.check loc s.toValue = .ok s := by
  refine ExtractSettings.check_eq_ok.mpr ⟨_, rfl, ?_, ?_⟩
  · simp [field, checkBool]
  · simp [field, checkEdition_name]

theorem TelemetrySettings.check_toValue {s : TelemetrySettings}
    (h : ∀ e, s.otlpEndpoint = some e → isEndpoint e) (loc : Location) :
    TelemetrySettings.check loc s.toValue = .ok s := by
  refine TelemetrySettings.check_eq_ok.mpr ⟨_, rfl, ?_, ?_, ?_⟩
  · simp [field, checkBool]
  · simp [field, checkEndpoint_of_isEndpoint h]
  · simp [field, checkText]

theorem Settings.Settled.check {s : Settings} (h : s.Settled) (homes : Homes) (loc : Location) :
    Settings.check homes loc s.toValue = .ok s := by
  have hendpoint : ∀ e, s.telemetry.otlpEndpoint = some e → isEndpoint e :=
    fun e he => isEndpoint_iff.mpr (h.endpoint e he)
  refine Settings.checkFields_eq_ok.mpr ⟨?_, ?_, ?_⟩
  · simp [field, LoggingSettings.check_toValue h.outputs]
  · simp [field, ExtractSettings.check_toValue]
  · simp [field, TelemetrySettings.check_toValue hendpoint]

theorem Settings.settled_of_checkStrict {fs : Fields} {s : Settings}
    (h : Settings.checkStrict homes fs = .ok s) : s.Settled :=
  settled_of_checkFields (checkFields_of_checkStrict h)

/-- What the first check accepts, the second one finds unchanged; so it is for everything that is
loaded, and it is settled. -/
theorem loaded_settings_check_again :
    (∀ (homes : Homes) (fs : Fields) (settings : Settings),
      Settings.checkStrict homes fs = .ok settings →
        Settings.check homes [] settings.toValue = .ok settings) ∧
    ∀ (s : Sources) (settings : Settings), s.load = .ok settings →
      Settings.check s.homes [] settings.toValue = .ok settings ∧ settings.Settled := by
  have hagain (homes : Homes) (fs : Fields) (settings : Settings)
      (h : Settings.checkStrict homes fs = .ok settings) :
      Settings.check homes [] settings.toValue = .ok settings :=
    (Settings.settled_of_checkStrict h).check homes []
  refine ⟨hagain, fun s settings hload => ?_⟩
  obtain ⟨fs, -, hcheck⟩ := Sources.checkStrict_of_load hload
  exact ⟨hagain s.homes fs settings hcheck, Settings.settled_of_checkStrict hcheck⟩

namespace LooseSpelling

/-- Levels in any case, an edition as a number, a home folder, and more slashes than needed. -/
def sources : Sources where
  files := {}
  globalPath := "/home/tester/.config/rustsyms/config.yaml"
  yaml := Yaml.reader
  homes := { own := "/home/tester" }
  environment := [("RUSTSYMS__TELEMETRY__OTLP_ENDPOINT", "http://localhost:4317")]
  overrides := [
    ("logging", .obj [
      ("level", .str " warn "),
      ("outputs", .arr [
        .obj [("destination", .str "~//logs/./a.log"), ("level", .str "Fatal")],
        .obj [("destination", .str "///var//b.log")]])]),
    ("extract", .obj [("edition", .int 2021)])]

def settings : Settings where
  logging := { level := .warning, outputs := [
    { destination := "/home/tester/logs/a.log", level := some .critical },
    { destination := "/var/b.log" }] }
  extract := { edition := .e2021 }
  telemetry := { otlpEndpoint := some "http://localhost:4317" }

theorem load_toOption : sources.load.toOption = some settings := by
  decide +kernel

theorem load_sources : sources.load = .ok settings :=
  Sources.load_eq_ok_of_toOption load_toOption

theorem check_again : sources.load = .ok settings ∧
    Settings.check sources.homes [] settings.toValue = .ok settings ∧ settings.Settled :=
  ⟨load_sources, loaded_settings_check_again.2 sources settings load_sources⟩

end LooseSpelling
end RustOutline
