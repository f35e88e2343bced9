import RustOutline.Proofs.SourceLayers
import RustOutline.Yaml.Reader

/-! Each setting by itself: the strongest source that names it decides, in the normal form of the
value that it gives, and without such a source the default. -/
namespace RustOutline
open Check

/-- One setting of the program. -/
inductive Setting where
  | level
  | outputs
  | includePrivate
  | edition
  | enabled
  | otlpEndpoint
  | serviceName
deriving DecidableEq, Repr

namespace Setting

def topic : Setting → String
  | .level | .outputs => "logging"
  | .includePrivate | .edition => "extract"
  | .enabled | .otlpEndpoint | .serviceName => "telemetry"

def name : Setting → String
  | .level => "level"
  | .outputs => "outputs"
  | .includePrivate => "include_private"
  | .edition => "edition"
  | .enabled => "enabled"
  | .otlpEndpoint => "otlp_endpoint"
  | .serviceName => "service_name"

/-- What the setting is, once it is checked. -/
abbrev Checked : Setting → Type
  | .level => Level
  | .outputs => List LogOutput
  | .includePrivate | .enabled => Bool
  | .edition => Edition
  | .otlpEndpoint => Option String
  | .serviceName => String

def default : (x : Setting) → x.Checked
  | .level => Level.warning
  | .outputs => [{ format := .console, destination := "stderr", level := none }]
  | .includePrivate => false
  | .edition => Edition.e2024
  | .enabled => false
  | .otlpEndpoint => none
  | .serviceName => "rustsyms"

def get (s : Settings) : (x : Setting) → x.Checked
  | .level => s.logging.level
  | .outputs => s.logging.outputs
  | .includePrivate => s.extract.includePrivate
  | .edition => s.extract.edition
  | .enabled => s.telemetry.enabled
  | .otlpEndpoint => s.telemetry.otlpEndpoint
  | .serviceName => s.telemetry.serviceName

/-- The normal form of a given value, or what is wrong with it. -/
def check (homes : Homes) : (x : Setting) → Location → Value → Check x.Checked
  | .level => checkLevel
  | .outputs => checkOutputs homes
  | .includePrivate | .enabled => checkBool
  | .edition => checkEdition
  | .otlpEndpoint => checkEndpoint
  | .serviceName => checkText

/-- The setting has the normal form of the value given for it, or its default if there is none. -/
def HasValue (x : Setting) (homes : Homes) (s : Settings) : Option Value → Prop
  | none => x.get s = x.default
  | some v => x.check homes [.key x.topic, .key x.name] v = .ok (x.get s)

theorem topic_mem (x : Setting) : x.topic ∈ Settings.sections := by
  cases x <;> decide

theorem check_object {x : Setting} {homes : Homes} {loc : Location} {v : Value} {a : x.Checked}
    (hv : v.isObject) : x.check homes loc v ≠ .ok a := by
  cases v with
  | obj fs => cases x <;> exact nofun
  | _ => cases hv

/-- One value decides a setting. -/
theorem HasValue.unique {x : Setting} {homes : Homes} {s t : Settings} {v : Option Value}
    (hs : x.HasValue homes s v) (ht : x.HasValue homes t v) : x.get s = x.get t := by
  cases v with
  | none => exact hs.trans ht.symm
  | some v => exact Except.ok.inj (hs.symm.trans ht)

/-- What is merged inside an object does not matter, as objects do not pass. -/
theorem HasValue.of_alike {x : Setting} {homes : Homes} {s : Settings} {v w : Option Value}
    (h : x.HasValue homes s v) (halike : Fields.Alike v w) : x.HasValue homes s w := by
  cases v with
  | none => cases w with
    | none => exact h
    | some w => cases halike
  | some v => cases w with
    | none => cases halike
    | some w =>
      obtain rfl | ⟨hobject, -⟩ := halike
      · exact h
      · exact absurd h (check_object hobject)

end Setting

/-- A field of a section that passes has been checked where it stands; without a section it has the
value of the empty one. -/
theorem checked_in_section {α β : Type} {fs : Fields} {topic name : String} {empty found : α}
    {default : β} {checkSection : Location → Value → Check α}
    {check : Location → Value → Check β} (part : α → β)
    (hsection : ∀ loc v a, checkSection loc v = .ok a →
      ∃ gs, v = .obj gs ∧ field gs loc name default check = .ok (part a))
    (hempty : part empty = default) (h : field fs [] topic empty checkSection = .ok found) :
    match Fields.given? topic name fs with
    | none => part found = default
    | some v => check [.key topic, .key name] v = .ok (part found) := by
  unfold Fields.given?
  cases htopic : Fields.get? topic fs with
  | none =>
    rw [field_of_none htopic] at h
    cases h
    exact hempty
  | some v =>
    rw [field_of_some htopic] at h
    obtain ⟨gs, rfl, hfield⟩ := hsection _ _ _ h
    show match Fields.get? name gs with | none => _ | some v => _
    cases hname : Fields.get? name gs with
    | none =>
      rw [field_of_none hname] at hfield
      exact (Except.ok.inj hfield).symm
    | some w =>
      rw [field_of_some hname] at hfield
      exact hfield

theorem Setting.hasValue_of_checkFields {homes : Homes} {fs : Fields} {s : Settings}
    (h : Settings.checkFields homes [] fs = .ok s) (x : Setting) :
    x.HasValue homes s (Fields.given? x.topic x.name fs) := by
  obtain ⟨hlogging, hextract, htelemetry⟩ := Settings.checkFields_eq_ok.mp h
  cases x with
  | level =>
    refine checked_in_section LoggingSettings.level (fun loc v a ha => ?_) rfl hlogging
    obtain ⟨gs, rfl, hlevel, -⟩ := LoggingSettings.check_eq_ok.mp ha
    exact ⟨gs, rfl, hlevel⟩
  | outputs =>
    refine checked_in_section LoggingSettings.outputs (fun loc v a ha => ?_) rfl hlogging
    obtain ⟨gs, rfl, -, houtputs⟩ := LoggingSettings.check_eq_ok.mp ha
    exact ⟨gs, rfl, houtputs⟩
  | includePrivate =>
    refine checked_in_section ExtractSettings.includePrivate (fun loc v a ha => ?_) rfl hextract
    obtain ⟨gs, rfl, hprivate, -⟩ := ExtractSettings.check_eq_ok.mp ha
    exact ⟨gs, rfl, hprivate⟩
  | edition =>
    refine checked_in_section ExtractSettings.edition (fun loc v a ha => ?_) rfl hextract
    obtain ⟨gs, rfl, -, hedition⟩ := ExtractSettings.check_eq_ok.mp ha
    exact ⟨gs, rfl, hedition⟩
  | enabled =>
    refine checked_in_section TelemetrySettings.enabled (fun loc v a ha => ?_) rfl htelemetry
    obtain ⟨gs, rfl, henabled, -, -⟩ := TelemetrySettings.check_eq_ok.mp ha
    exact ⟨gs, rfl, henabled⟩
  | otlpEndpoint =>
    refine checked_in_section TelemetrySettings.otlpEndpoint (fun loc v a ha => ?_) rfl htelemetry
    obtain ⟨gs, rfl, -, hendpoint, -⟩ := TelemetrySettings.check_eq_ok.mp ha
    exact ⟨gs, rfl, hendpoint⟩
  | serviceName =>
    refine checked_in_section TelemetrySettings.serviceName (fun loc v a ha => ?_) rfl htelemetry
    obtain ⟨gs, rfl, -, -, hservice⟩ := TelemetrySettings.check_eq_ok.mp ha
    exact ⟨gs, rfl, hservice⟩

namespace Layers

/-- Every section that a layer has is an object. -/
def HasSections (l : Layers) : Prop :=
  ∀ layer ∈ l.ordered, ∀ topic ∈ Settings.sections, Fields.HasObject topic layer

instance (l : Layers) : Decidable l.HasSections :=
  inferInstanceAs (Decidable (∀ layer ∈ l.ordered, ∀ topic ∈ Settings.sections, _))

/-- What the strongest layer says that names the setting. -/
def strongest? (l : Layers) (x : Setting) : Option Value :=
  l.ordered.findSome? (Fields.given? x.topic x.name)

/-- The choice in the groups in which loading merges. -/
theorem strongest?_eq (l : Layers) (x : Setting) : l.strongest? x =
    ((Fields.given? x.topic x.name l.overrides).or
      (Fields.given? x.topic x.name l.environment)).or
      ([l.global, l.explicit].reverse.findSome? (Fields.given? x.topic x.name)) := by
  unfold strongest? ordered
  cases hoverrides : Fields.given? x.topic x.name l.overrides <;>
    cases henvironment : Fields.given? x.topic x.name l.environment <;>
      simp [List.findSome?_cons, hoverrides, henvironment]

/-- Merging chooses the strongest value, up to what is merged inside objects. The two groups of
layers are merged apart, and choosing does not depend on that. -/
theorem alike_strongest {l : Layers} (hmapping : ∀ layer ∈ l.ordered, layer.IsMapping)
    (hsections : l.HasSections) (x : Setting) :
    Fields.Alike (Fields.given? x.topic x.name l.merged) (l.strongest? x) := by
  have hobject (layer : Fields) (h : layer ∈ l.ordered) : Fields.HasObject x.topic layer :=
    hsections layer h x.topic x.topic_mem
  have hoverrides : l.overrides ∈ l.ordered := by simp [ordered]
  have henvironment : l.environment ∈ l.ordered := by simp [ordered]
  have hordered : ∀ layer ∈ [l.global, l.explicit], layer ∈ l.ordered := by simp [ordered]
  have hfiles := Fields.alike_given?_foldl (fun layer h => hmapping layer (hordered layer h))
    (fun layer h => hobject layer (hordered layer h))
    (Fields.alike_refl (Fields.given? x.topic x.name []))
  have htop := Fields.alike_given?_overlay (hmapping _ hoverrides) (hobject _ hoverrides)
    (Fields.alike_refl (Fields.given? x.topic x.name l.overrides))
    (Fields.alike_refl (Fields.given? x.topic x.name l.environment))
  have hmerged := Fields.alike_given?_overlay
    ((hmapping _ henvironment).overlay (hmapping _ hoverrides))
    ((hobject _ henvironment).overlay (hobject _ hoverrides) (hmapping _ hoverrides).distinct)
    htop hfiles
  rw [strongest?_eq]
  simpa [merged, Fields.overlayAll, Fields.given?] using hmerged

end Layers

theorem Sources.hasSections_of_all {s : Sources} {l : Layers}
    (hall : s.layers.toOption.all fun l => decide l.HasSections) (h : s.layers = .ok l) :
    l.HasSections := by
  simpa [h, Except.toOption] using hall

theorem Sources.hasValue_of_load {s : Sources} {settings : Settings} {l : Layers}
    (hload : s.load = .ok settings) (hlayers : s.layers = .ok l)
    (hoverrides : s.overrides.IsMapping) (hsections : l.HasSections) (x : Setting) :
    x.HasValue s.homes settings (l.strongest? x) := by
  obtain ⟨fs, hmerged, hcheck⟩ := checkStrict_of_load hload
  obtain ⟨l', hlayers', rfl⟩ := layers_of_merged hmerged
  obtain rfl : l' = l := Except.ok.inj (hlayers'.symm.trans hlayers)
  have halike := Layers.alike_strongest (isMapping_layers hlayers hoverrides) hsections x
  exact (Setting.hasValue_of_checkFields (Settings.checkFields_of_checkStrict hcheck) x).of_alike
    halike

/-- Loading reads all layers, and each setting has the normal form of what the strongest layer says
that names it, or else its default. So nothing that is said about other settings matters: any other
sources with the same home folder and the same strongest value give the same setting. -/
theorem loaded_settings_follow_precedence {s : Sources} {settings : Settings}
    (hload : s.load = .ok settings) (hoverrides : s.overrides.IsMapping) :
    ∃ l, s.layers = .ok l ∧ (l.HasSections → ∀ x : Setting,
      x.HasValue s.homes settings (l.strongest? x) ∧
      ∀ (t : Sources) (others : Settings) (k : Layers), t.load = .ok others →
        t.overrides.IsMapping → t.layers = .ok k → k.HasSections → t.homes = s.homes →
          k.strongest? x = l.strongest? x → x.get others = x.get settings) := by
  obtain ⟨fs, hmerged, -⟩ := Sources.checkStrict_of_load hload
  obtain ⟨l, hlayers, -⟩ := Sources.layers_of_merged hmerged
  refine ⟨l, hlayers, fun hsections x => ?_⟩
  have hvalue := Sources.hasValue_of_load hload hlayers hoverrides hsections x
  refine ⟨hvalue, fun t others k ht hmapping hk hobjects hhome hstrongest => ?_⟩
  have hother := Sources.hasValue_of_load ht hk hmapping hobjects x
  rw [hhome, hstrongest] at hother
  exact hother.unique hvalue

namespace FourSources

/-- The level is named twice, and so is the edition; the outputs are named by the overrides only. -/
def sources : Sources where
  files := .ofNames ["work"] [
    ("/etc/all.yaml", .file (Utf8.encode "logging:\n  level: debug\nextract:\n  edition: 2018\n")),
    ("/work/own.yaml", .file (Utf8.encode "extract:\n  edition: 2021\n"))]
  globalPath := "/etc/all.yaml"
  explicitPath := some "own.yaml"
  environment := [("RUSTSYMS__LOGGING__LEVEL", "Warn")]
  overrides := [("logging", .obj [("outputs", .arr [])])]
  yaml := Yaml.reader
  homes := { own := "/home/tester" }

def settings : Settings where
  logging := { level := .warning, outputs := [] }
  extract := { includePrivate := false, edition := .e2021 }

theorem load_toOption : sources.load.toOption = some settings := by
  decide +kernel

theorem load_sources : sources.load = .ok settings :=
  Sources.load_eq_ok_of_toOption load_toOption

theorem overrides_isMapping : sources.overrides.IsMapping := by
  refine ⟨by decide, fun f hf => ?_⟩
  obtain rfl : f = (.text "logging", .obj [("outputs", .arr [])]) := by
    simpa [sources] using hf
  rintro fs ⟨⟩
  decide

theorem all_layers : sources.layers.toOption.all fun l => decide l.HasSections := by
  decide +kernel

theorem strongest_decides : sources.load = .ok settings ∧ ∃ l, sources.layers = .ok l ∧
    l.HasSections ∧ ∀ x : Setting, x.HasValue sources.homes settings (l.strongest? x) := by
  obtain ⟨l, hlayers, hvalues⟩ :=
    loaded_settings_follow_precedence load_sources overrides_isMapping
  have hsections := Sources.hasSections_of_all all_layers hlayers
  exact ⟨load_sources, l, hlayers, hsections, fun x => (hvalues hsections x).1⟩

end FourSources
end RustOutline
