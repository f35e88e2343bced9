import RustOutline.Proofs.Invocation
import RustOutline.Proofs.JsonRoundTrip
import RustOutline.Proofs.SourceLayers
import RustOutline.Yaml.Reader

/-! How loading fails. The program reports its own failures: a file that is missing, a text that is
no document, a value that is refused. Some faults escape it: what the library that reads the files
raises apart from its own errors, and what lies in the environment, in a name, in a home folder or in
a number that is too long to be shown. The library and the home folders are inputs. -/
namespace RustOutline

namespace Check
variable {α β : Type} {x : Complaint}

/-- The complaint is among the issues of a check. -/
def Complains (a : Check α) (x : Complaint) : Prop :=
  ∃ issues, a = .error issues ∧ ∃ i ∈ issues.toList, i.complaint = x

@[simp] theorem not_complains_ok (y : α) : ¬ Complains (.ok y) x := by
  rintro ⟨issues, h, -⟩
  cases h

theorem complains_error {issues : Issues} :
    Complains (.error issues : Check α) x ↔ ∃ i ∈ issues.toList, i.complaint = x := by
  simp [Complains]

@[simp] theorem complains_fail {loc : Location} {complaint : Complaint} {v : Value} :
    Complains (fail loc complaint v : Check α) x ↔ complaint = x := by
  constructor
  · rintro ⟨issues, h, i, hi, rfl⟩
    cases h
    obtain rfl := List.mem_singleton.mp hi
    rfl
  · rintro rfl
    exact ⟨_, rfl, _, List.mem_cons_self, rfl⟩

@[simp] theorem complains_map {a : Check α} {f : α → β} : Complains (a.map f) x ↔ Complains a x := by
  cases a with
  | ok y => exact iff_of_false (not_complains_ok _) (not_complains_ok _)
  | error issues => exact complains_error.trans complains_error.symm

@[simp] theorem complains_both {a : Check α} {b : Check β} :
    Complains (a.both b) x ↔ Complains a x ∨ Complains b x := by
  cases a with
  | ok y =>
    cases b with
    | ok z => simp [both]
    | error js => simp [both, complains_error]
  | error is =>
    cases b with
    | ok z => simp [both, complains_error]
    | error js =>
      have happend : (is ++ js).toList = is.toList ++ js.toList := rfl
      simp only [both, complains_error, happend, List.mem_append, or_and_right, exists_or]

theorem complains_field {P : Value → Prop} {fs : Fields} {loc : Location} {name : String}
    {default : α} {check : Location → Value → Check α}
    (h : ∀ loc v, Complains (check loc v) x ↔ P v) :
    Complains (field fs loc name default check) x ↔ ∃ v, Fields.get? name fs = some v ∧ P v := by
  unfold field
  cases hget : Fields.get? name fs with
  | none => simp
  | some v => simp [h]

theorem not_complains_field {fs : Fields} {loc : Location} {name : String} {default : α}
    {check : Location → Value → Check α} (h : ∀ loc v, ¬ Complains (check loc v) x) :
    ¬ Complains (field fs loc name default check) x := by
  unfold field
  split
  · exact not_complains_ok default
  · exact h _ _

theorem complains_items {P : Value → Prop} {loc : Location} {check : Location → Value → Check α}
    (h : ∀ loc v, Complains (check loc v) x ↔ P v) (i : Nat) (vs : List Value) :
    Complains (items loc check i vs) x ↔ ∃ v ∈ vs, P v := by
  induction vs generalizing i with
  | nil => simp [items]
  | cons v vs ih => simp [items, h, ih]

end Check
open Check

section UnknownHome
variable {homes : Homes} (loc : Location) (v : Value)

theorem not_complains_checkName {α : Type} {all : List α} {name : α → String} (loc : Location)
    (v : Value) : ¬ Complains (checkName all name loc v) .unknownHome := by
  have refuse : ¬ Complains (fail loc (.notOneOf (all.map name)) v : Check α) .unknownHome := by
    simp
  unfold checkName
  split
  · split
    · simp
    · exact refuse
  · exact refuse

theorem not_complains_checkLevel : ¬ Complains (checkLevel loc v) .unknownHome :=
  not_complains_checkName loc _

theorem not_complains_checkOptionalLevel :
    ¬ Complains (checkOptionalLevel loc v) .unknownHome := by
  fun_cases checkOptionalLevel loc v <;> simp [not_complains_checkLevel]

theorem not_complains_checkBool : ¬ Complains (checkBool loc v) .unknownHome := by
  have bit (n : Int) : ¬ Complains (checkBit loc v n) .unknownHome := by
    fun_cases checkBit loc v n <;> simp
    split <;> simp
  fun_cases checkBool loc v <;> simp [bit]

theorem not_complains_checkEdition : ¬ Complains (checkEdition loc v) .unknownHome := by
  fun_cases checkEdition loc v <;> simp [not_complains_checkName]

theorem not_complains_checkEndpoint : ¬ Complains (checkEndpoint loc v) .unknownHome := by
  fun_cases checkEndpoint loc v <;> simp

theorem not_complains_checkText : ¬ Complains (checkText loc v) .unknownHome := by
  fun_cases checkText loc v <;> simp

/-- The value is a path in a home folder that is not known. -/
def Value.NeedsHome (homes : Homes) (v : Value) : Prop :=
  ∃ s, v = .str s ∧ (Path.ofText s).expandHome? homes = none

theorem complains_checkDestination :
    Complains (checkDestination homes loc v) .unknownHome ↔ v.NeedsHome homes := by
  fun_cases checkDestination homes loc v with
  | case1 s hstream =>
    have hplain : ∃ path, (Path.ofText s).expandHome? homes = some path := by
      simp only [Bool.or_eq_true, beq_iff_eq] at hstream
      rcases hstream with rfl | rfl <;> exact ⟨_, rfl⟩
    obtain ⟨path, hpath⟩ := hplain
    simp [Value.NeedsHome, hpath]
  | case2 s _ hnone => simp [Value.NeedsHome, hnone]
  | case3 s _ path hpath _ => simp [Value.NeedsHome, hpath]
  | case4 s _ path hpath _ => simp [Value.NeedsHome, hpath]
  | case5 v hno =>
    have hneeds : ¬ v.NeedsHome homes := fun ⟨s, hs, _⟩ => hno s hs
    simp [hneeds]

theorem complains_outputCheck : Complains (LogOutput.check homes loc v) .unknownHome ↔
    ∃ fs, v = .obj fs ∧ ∃ d, Fields.get? "destination" fs = some d ∧ d.NeedsHome homes := by
  cases v with
  | obj fs =>
    simp [LogOutput.check, complains_field complains_checkDestination,
      not_complains_field not_complains_checkName,
      not_complains_field not_complains_checkOptionalLevel]
  | _ => simp [LogOutput.check]

theorem complains_outputsCheck : Complains (checkOutputs homes loc v) .unknownHome ↔
    ∃ vs, v = .arr vs ∧ ∃ o ∈ vs, ∃ fs, o = .obj fs ∧
      ∃ d, Fields.get? "destination" fs = some d ∧ d.NeedsHome homes := by
  cases v with
  | arr vs => simp [checkOutputs, complains_items complains_outputCheck]
  | _ => simp [checkOutputs]

theorem complains_loggingCheck : Complains (LoggingSettings.check homes loc v) .unknownHome ↔
    ∃ fs, v = .obj fs ∧ ∃ outputs, Fields.get? "outputs" fs = some outputs ∧
      ∃ vs, outputs = .arr vs ∧ ∃ o ∈ vs, ∃ fs, o = .obj fs ∧
        ∃ d, Fields.get? "destination" fs = some d ∧ d.NeedsHome homes := by
  cases v with
  | obj fs =>
    simp [LoggingSettings.check, complains_field complains_outputsCheck,
      not_complains_field not_complains_checkLevel]
  | _ => simp [LoggingSettings.check]

theorem not_complains_extractCheck : ¬ Complains (ExtractSettings.check loc v) .unknownHome := by
  cases v with
  | obj fs =>
    simp [ExtractSettings.check, not_complains_field not_complains_checkBool,
      not_complains_field not_complains_checkEdition]
  | _ => simp [ExtractSettings.check]

theorem not_complains_telemetryCheck :
    ¬ Complains (TelemetrySettings.check loc v) .unknownHome := by
  cases v with
  | obj fs =>
    simp [TelemetrySettings.check, not_complains_field not_complains_checkBool,
      not_complains_field not_complains_checkEndpoint, not_complains_field not_complains_checkText]
  | _ => simp [TelemetrySettings.check]

end UnknownHome

/-- Some log output has its destination in a home folder that is not known. -/
def Fields.NeedHome (homes : Homes) (fs : Fields) : Prop :=
  ∃ logging outputs output destination, Fields.get? "logging" fs = some (.obj logging) ∧
    Fields.get? "outputs" logging = some (.arr outputs) ∧ .obj output ∈ outputs ∧
    Fields.get? "destination" output = some (.str destination) ∧
    (Path.ofText destination).expandHome? homes = none

/-- Settings are looked up in an unknown home folder for their log outputs only. -/
theorem complains_checkStrict {homes : Homes} {fs : Fields} :
    Complains (Settings.checkStrict homes fs) .unknownHome ↔ fs.NeedHome homes := by
  have hothers : ¬ (Complains (field fs [] "extract" {} ExtractSettings.check) .unknownHome ∨
      Complains (field fs [] "telemetry" {} TelemetrySettings.check) .unknownHome) :=
    not_or.mpr ⟨not_complains_field not_complains_extractCheck,
      not_complains_field not_complains_telemetryCheck⟩
  have hsections : Complains (Settings.checkFields homes [] fs) .unknownHome ↔ fs.NeedHome homes := by
    rw [Settings.checkFields, complains_map, complains_both, complains_both, or_iff_left hothers,
      complains_field complains_loggingCheck]
    constructor
    · rintro ⟨_, hlogging, logging, rfl, _, houtputs, outputs, rfl, _, hmem, output, rfl, _,
        hdestination, destination, rfl, hhome⟩
      exact ⟨logging, outputs, output, destination, hlogging, houtputs, hmem, hdestination, hhome⟩
    · rintro ⟨logging, outputs, output, destination, hlogging, houtputs, hmem, hdestination, hhome⟩
      exact ⟨_, hlogging, logging, rfl, _, houtputs, outputs, rfl, _, hmem, output, rfl, _,
        hdestination, destination, rfl, hhome⟩
  unfold Settings.checkStrict
  rw [complains_map, complains_both, hsections]
  refine or_iff_left ?_
  cases hfields : Settings.unexpected fs with
  | nil => exact not_complains_ok ()
  | cons first rest =>
    rw [complains_error]
    rintro ⟨i, hi, hcomplaint⟩
    have hmem : i ∈ Settings.unexpected fs := hfields ▸ hi
    obtain ⟨f, -, rfl⟩ := List.mem_map.mp hmem
    cases hcomplaint

theorem Key.text?_ident (k : Key) : k.ident.text? = k.text? := by
  cases k with
  | real bits =>
    rw [ident]
    cases Decimal.Double.ofBits bits with
    | finite d =>
      dsimp only
      cases d.whole? <;> rfl
    | infinite _ => rfl
    | nan => rfl
  | _ => rfl

namespace Fields

theorem mem_names_put {id k : Key} {v : Value} {fs : Fields} :
    id ∈ (put k v fs).names ↔ id ∈ fs.names ∨ id = k.ident := by
  by_cases hmem : k.ident ∈ fs.names
  · rw [names_put_of_mem hmem]
    refine ⟨.inl, fun h => ?_⟩
    rcases h with h | rfl
    · exact h
    · exact hmem
  · simp [put_of_not_mem hmem]

theorem mem_names_overlay {id : Key} {base top : Fields} :
    id ∈ names (overlay base top) ↔ id ∈ base.names ∨ id ∈ top.names := by
  induction top generalizing base with
  | nil => simp [overlay]
  | cons f top ih =>
    obtain ⟨k, v⟩ := f
    rw [overlay, ih, mem_names_put, names_cons, List.mem_cons, or_assoc]

def Unnamed (fs : Fields) : Prop := ∃ f ∈ fs, f.1.text? = none

theorem unnamed_iff {fs : Fields} : fs.Unnamed ↔ ∃ id ∈ fs.names, id.text? = none := by
  constructor
  · rintro ⟨f, hf, htext⟩
    exact ⟨f.1.ident, List.mem_map_of_mem hf, (Key.text?_ident f.1).trans htext⟩
  · rintro ⟨id, hid, htext⟩
    obtain ⟨f, hf, rfl⟩ := List.mem_map.mp hid
    exact ⟨f, hf, (Key.text?_ident f.1).symm.trans htext⟩

theorem unnamed_overlay {base top : Fields} :
    Unnamed (overlay base top) ↔ base.Unnamed ∨ top.Unnamed := by
  simp only [unnamed_iff, mem_names_overlay, or_and_right, exists_or]

end Fields

theorem Layers.unnamed_merged {l : Layers} :
    l.merged.Unnamed ↔ ∃ layer ∈ l.ordered, layer.Unnamed := by
  have hnil : ¬ Fields.Unnamed [] := nofun
  simp only [Layers.merged, Layers.ordered, Fields.overlayAll, List.foldl_cons, List.foldl_nil,
    Fields.unnamed_overlay, hnil, false_or, List.mem_cons, List.not_mem_nil, or_false,
    exists_eq_or_imp, exists_eq_left]
  grind

/-- Made of null, truth values, numbers, texts, lists and objects, and of nothing foreign. The checks
of the settings may convert foreign values in ways that are not modelled. -/
def Value.IsData (v : Value) : Prop := ∀ reason depth, ¬ (Value.foreign reason).PartAt depth v

namespace Files

/-- What stands at the path, if anything, is a file, and what is read of it is plain data. -/
structure IsRegular (files : Files) (yaml : Yaml.Reader) (path : String) : Prop where
  notFolder : files.find path ≠ .folder
  notTooLong : files.find path ≠ .tooLong
  data : ∀ bytes v, files.read path = .ok bytes → yaml.read bytes = .ok v → v.IsData

/-- Reading the file raises something else than an error of the library. -/
def Raises (files : Files) (yaml : Yaml.Reader) (path : String) (r : Raised) : Prop :=
  ∃ bytes, files.read path = .ok bytes ∧ yaml.read bytes = .error (.raised r)

end Files

def Code.ofSettings : List Code := [.configParse, .configInvalidValue, .configFileNotFound]

def LoadError.IsProper (e : LoadError) : Prop := ∃ f, e = .failure f ∧ f.code ∈ Code.ofSettings

section ReadLayer
variable {files : Files} {yaml : Yaml.Reader} {path : String}

theorem readLayer_of_raises {r : Raised} (h : files.Raises yaml path r) :
    readLayer yaml files path = .error (.content r) := by
  obtain ⟨bytes, hread, hraised⟩ := h
  simp [readLayer, hread, hraised, LoadError.ofProblem]

/-- A settings file that cannot be read is reported, unless something else is raised. -/
theorem readLayer_eq_error {e : LoadError} (regular : files.IsRegular yaml path)
    (h : readLayer yaml files path = .error e) :
    e.IsProper ∨ ∃ r, files.Raises yaml path r ∧ e = .content r := by
  have hparse (reason : String) : LoadError.IsProper (.failure (.parse path reason)) :=
    ⟨_, rfl, by simp [Failure.parse, Code.ofSettings]⟩
  unfold readLayer at h
  cases hfind : files.find path with
  | folder => exact absurd hfind regular.notFolder
  | tooLong => exact absurd hfind regular.notTooLong
  | nothing | blocked => simp [Files.read, hfind] at h
  | file bytes =>
    have hread : files.read path = .ok bytes := by rw [Files.read, hfind]
    rw [hread] at h
    dsimp only at h
    split at h
    next problem hproblem =>
      cases h
      cases problem with
      | invalid reason => exact .inl (hparse reason)
      | raised r => exact .inr ⟨r, ⟨bytes, hread, hproblem⟩, rfl⟩
    · cases h
    · cases h
    · cases h
      exact .inl (hparse _)

end ReadLayer

namespace Sources

/-- Each settings file is a file or is missing, and all that is said is plain data. -/
structure Regular (s : Sources) : Prop where
  global : s.files.IsRegular s.yaml s.globalPath
  explicit : ∀ path, s.explicitPath = some path → s.files.IsRegular s.yaml (shown path)
  overrides : Value.IsData (.obj s.overrides)

/-- The ways in which loading fails with something that is no failure of the program's own. An
explicit file that is missing is reported before anything else is looked at. -/
inductive Escapes (s : Sources) : LoadError → Prop
  | globalFile {r : Raised} (present : s.checkExplicit = .ok ())
      (raises : s.files.Raises s.yaml s.globalPath r) : Escapes s (.content r)
  | explicitFile {path : String} {r : Raised} {global : Fields}
      (given : s.explicitPath = some path)
      (weaker : readLayer s.yaml s.files s.globalPath = .ok global)
      (raises : s.files.Raises s.yaml (shown path) r) : Escapes s (.content r)
  | environment {name : String} {global explicit : Fields} (present : s.checkExplicit = .ok ())
      (weaker : readLayer s.yaml s.files s.globalPath = .ok global)
      (between : s.explicitLayer = .ok explicit)
      (faulty : s.environment.settings = .error name) : Escapes s (.environment name)
  | unnamed {l : Layers} {layer : Fields} (present : s.checkExplicit = .ok ())
      (layers : s.layers = .ok l) (mem : layer ∈ l.ordered) (unnamed : layer.Unnamed) :
      Escapes s .unnamed
  | unknownHome {l : Layers} (present : s.checkExplicit = .ok ()) (layers : s.layers = .ok l)
      (named : ∀ layer ∈ l.ordered, ¬ layer.Unnamed) (needs : l.merged.NeedHome s.homes) :
      Escapes s .unknownHome
  | unwritable {l : Layers} {issues : Issues} (present : s.checkExplicit = .ok ())
      (layers : s.layers = .ok l) (named : ∀ layer ∈ l.ordered, ¬ layer.Unnamed)
      (known : ¬ l.merged.NeedHome s.homes)
      (refused : Settings.checkStrict s.homes l.merged = .error issues)
      (long : issues.first.input.isWritable = false) : Escapes s .unwritable

variable {s : Sources} {e : LoadError}

theorem Escapes.not_isProper (h : s.Escapes e) : ¬ e.IsProper := by
  rintro ⟨f, rfl, -⟩
  cases h

section Stages

theorem checkExplicit_of_find {path : String} {bytes : Utf8.Bytes} (given : s.explicitPath = some path)
    (hfind : s.files.find (shown path) = .file bytes) : s.checkExplicit = .ok () := by
  simp [checkExplicit, given, checkPresent, hfind]

theorem load_of_checkExplicit (h : s.checkExplicit = .error e) : s.load = .error e := by
  rw [load, merged_eq, h]
  rfl

theorem load_of_layers_error (present : s.checkExplicit = .ok ()) (h : s.layers = .error e) :
    s.load = .error e := by
  rw [load, merged_eq, present, h]
  rfl

theorem load_of_unnamed {l : Layers} (present : s.checkExplicit = .ok ()) (layers : s.layers = .ok l)
    (unnamed : ∃ layer ∈ l.ordered, layer.Unnamed) : s.load = .error .unnamed := by
  rw [load_of_merged (merged_of_layers present layers)]
  refine if_pos (List.any_eq_true.mpr ?_)
  obtain ⟨f, hf, htext⟩ := Layers.unnamed_merged.mpr unnamed
  exact ⟨f, hf, Option.isNone_iff_eq_none.mpr htext⟩

/-- With all names in place the checks decide. -/
theorem load_of_named {l : Layers} (present : s.checkExplicit = .ok ()) (layers : s.layers = .ok l)
    (named : ∀ layer ∈ l.ordered, ¬ layer.Unnamed) : s.load =
      match Settings.checkStrict s.homes l.merged with
      | .ok settings => .ok settings
      | .error issues =>
        .error (if issues.toList.any (fun i => i.complaint == .unknownHome) then .unknownHome
          else issues.first.loadError) := by
  rw [load_of_merged (merged_of_layers present layers)]
  refine if_neg fun hany => ?_
  obtain ⟨f, hf, htext⟩ := List.any_eq_true.mp hany
  have hunnamed : l.merged.Unnamed := ⟨f, hf, Option.isNone_iff_eq_none.mp htext⟩
  obtain ⟨layer, hlayer, h⟩ := Layers.unnamed_merged.mp hunnamed
  exact named layer hlayer h

theorem any_unknownHome_iff {homes : Homes} {fs : Fields} {issues : Issues}
    (refused : Settings.checkStrict homes fs = .error issues) :
    issues.toList.any (fun i => i.complaint == .unknownHome) = true ↔ fs.NeedHome homes := by
  rw [← complains_checkStrict, refused, complains_error, List.any_eq_true]
  simp

end Stages

theorem load_of_escapes (h : s.Escapes e) : s.load = .error e := by
  cases h with
  | globalFile present raises =>
    refine load_of_layers_error present ?_
    rw [layers, readLayer_of_raises raises]
    rfl
  | explicitFile given weaker raises =>
    obtain ⟨bytes, hread, -⟩ := id raises
    refine load_of_layers_error (checkExplicit_of_find given (Files.find_of_read hread)) ?_
    rw [layers, weaker, explicitLayer, given]
    dsimp only
    rw [readLayer_of_raises raises]
    rfl
  | environment present weaker between faulty =>
    refine load_of_layers_error present ?_
    rw [layers, weaker, between, faulty]
    rfl
  | unnamed present layers mem unnamed => exact load_of_unnamed present layers ⟨_, mem, unnamed⟩
  | unknownHome present layers named needs =>
    obtain ⟨issues, refused, _⟩ := complains_checkStrict.mpr needs
    rw [load_of_named present layers named, refused]
    dsimp only
    rw [if_pos ((any_unknownHome_iff refused).mpr needs)]
  | unwritable present layers named known refused long =>
    rw [load_of_named present layers named, refused]
    dsimp only
    rw [if_neg (mt (any_unknownHome_iff refused).mp known), Issue.loadError, long]
    rfl

theorem isProper_of_checkExplicit (regular : s.Regular) (h : s.checkExplicit = .error e) :
    e.IsProper := by
  unfold checkExplicit at h
  cases given : s.explicitPath with
  | none => simp [given] at h
  | some path =>
    obtain ⟨hfolder, hlong, -⟩ := regular.explicit path given
    simp only [given, checkPresent] at h
    split at h
    · cases h
    · cases h
    · contradiction
    · cases h
      exact ⟨_, rfl, by simp [Failure.fileNotFound, Code.ofSettings]⟩

theorem isProper_or_escapes_of_layers (regular : s.Regular) (present : s.checkExplicit = .ok ())
    (h : s.layers = .error e) : e.IsProper ∨ s.Escapes e := by
  unfold layers at h
  cases weaker : readLayer s.yaml s.files s.globalPath with
  | error e' =>
    rw [weaker] at h
    cases h
    refine (readLayer_eq_error regular.global weaker).imp id ?_
    rintro ⟨r, raises, rfl⟩
    exact .globalFile present raises
  | ok global =>
    cases between : s.explicitLayer with
    | error e' =>
      rw [weaker, between] at h
      cases h
      unfold explicitLayer at between
      cases given : s.explicitPath with
      | none => simp [given] at between
      | some path =>
        rw [given] at between
        refine (readLayer_eq_error (regular.explicit path given) between).imp id ?_
        rintro ⟨r, raises, rfl⟩
        exact .explicitFile given weaker raises
    | ok explicit =>
      cases faulty : s.environment.settings with
      | error name =>
        rw [weaker, between, faulty] at h
        cases h
        exact .inr (.environment present weaker between faulty)
      | ok environment =>
        rw [weaker, between, faulty] at h
        cases h

/-- Whatever goes wrong, it is reported or it escapes in one of these ways. -/
theorem isProper_or_escapes (regular : s.Regular) (h : s.load = .error e) :
    e.IsProper ∨ s.Escapes e := by
  cases present : s.checkExplicit with
  | error e' =>
    obtain rfl := Except.error.inj ((load_of_checkExplicit present).symm.trans h)
    exact .inl (isProper_of_checkExplicit regular present)
  | ok =>
    cases layers : s.layers with
    | error e' =>
      obtain rfl := Except.error.inj ((load_of_layers_error present layers).symm.trans h)
      exact isProper_or_escapes_of_layers regular present layers
    | ok l =>
      by_cases unnamed : ∃ layer ∈ l.ordered, layer.Unnamed
      · obtain rfl := Except.error.inj ((load_of_unnamed present layers unnamed).symm.trans h)
        obtain ⟨layer, mem, hlayer⟩ := unnamed
        exact .inr (.unnamed present layers mem hlayer)
      have named : ∀ layer ∈ l.ordered, ¬ layer.Unnamed :=
        fun layer mem hlayer => unnamed ⟨layer, mem, hlayer⟩
      rw [load_of_named present layers named] at h
      split at h
      · cases h
      next issues refused =>
        cases h
        by_cases needs : l.merged.NeedHome s.homes
        · rw [if_pos ((any_unknownHome_iff refused).mpr needs)]
          exact .inr (.unknownHome present layers named needs)
        · rw [if_neg (mt (any_unknownHome_iff refused).mp needs)]
          unfold Issue.loadError
          split
          · exact .inl ⟨_, rfl, by simp [Failure.invalidValue, Code.ofSettings]⟩
          next hlong =>
            exact .inr (.unwritable present layers named needs refused (by simpa using hlong))

end Sources

open Command

theorem exists_failure_loadFailed {p : Process} {e : LoadError} :
    (∃ f, (loadFailed p e).complaint = some (.failure f)) ↔ ∃ f, e = .failure f := by
  cases e <;> simp [loadFailed]

namespace BrokenByte

/-- A settings file with a byte that is no text. -/
def surroundings : Surroundings where
  files := .ofNames ["work"] [
    ("a.rs", .file (Utf8.encode "pub fn f() \x7b\x7d\n")), ("c.yaml", .file [0xFF])]
  yaml := Yaml.reader
  homes := { own := "/home/tester" }
  globalPath := "global.yaml"
  parse _ := default
  now := "now"
  freshId := "id"

def call : Invocation where
  config := some "c.yaml"
  path := "a.rs"

def sources : Sources := call.sources surroundings

def raised : Raised where
  kind := "UnicodeDecodeError"
  message := "'utf-8' codec can't decode byte 0xff in position 0: invalid start byte"

theorem read_raises : Yaml.reader.read [0xFF] = .error (.raised raised) := by
  rfl

theorem find_global : sources.files.find sources.globalPath = .nothing := by
  rfl

theorem find_explicit : sources.files.find (Sources.shown "c.yaml") = .file [0xFF] := by
  rfl

theorem regular : sources.Regular where
  global := {
    notFolder := by simp [find_global]
    notTooLong := by simp [find_global]
    data := by simp [Files.read, find_global] }
  explicit := by
    rintro path ⟨⟩
    refine ⟨by simp [find_explicit], by simp [find_explicit], fun bytes v hbytes hv => ?_⟩
    obtain rfl := Found.file.inj ((Files.find_of_read hbytes).symm.trans find_explicit)
    cases hv.symm.trans read_raises
  overrides := by
    rintro reason depth ⟨⟩
    contradiction

theorem escapes : sources.Escapes (.content raised) := by
  have hglobal : readLayer sources.yaml sources.files sources.globalPath = .ok [] := by
    simp [readLayer, Files.read, find_global]
  have hread : sources.files.read (Sources.shown "c.yaml") = .ok [0xFF] := by
    simp [Files.read, find_explicit]
  exact .explicitFile rfl hglobal ⟨_, hread, read_raises⟩

end BrokenByte
end RustOutline
