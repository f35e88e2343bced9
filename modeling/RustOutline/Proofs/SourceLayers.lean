import RustOutline.Proofs.CheckedSettings
import RustOutline.Proofs.FieldOverlay

/-! What the sources of settings say, one layer for each: every layer is a mapping of mappings, and
what is loaded is made from four of them. -/
namespace RustOutline

/-- Every settings file that is read is a mapping, to any depth. -/
theorem unambiguous_of_readLayer {yaml : Yaml.Reader} {files : Files} {path : String} {fs : Fields}
    (h : readLayer yaml files path = .ok fs) : fs.Unambiguous := by
  have hempty : Fields.Unambiguous [] := .object Fields.distinct_nil nofun
  unfold readLayer at h
  split at h
  · exact Except.ok.inj h ▸ hempty
  · exact Except.ok.inj h ▸ hempty
  · cases h
  · split at h
    · cases h
    · exact Except.ok.inj h ▸ hempty
    · next hread => exact Except.ok.inj h ▸ yaml.unambiguous _ _ hread
    · cases h

theorem isMapping_of_readLayer {yaml : Yaml.Reader} {files : Files} {path : String} {fs : Fields}
    (h : readLayer yaml files path = .ok fs) : fs.IsMapping :=
  Fields.Unambiguous.isMapping (unambiguous_of_readLayer h)

namespace Environment

theorem distinct_insertAt (v : Value) (path : List String) {fs : Fields} (h : fs.Distinct) :
    (insertAt v path fs).Distinct := by
  fun_cases insertAt v path fs with
  | case1 => exact h
  | case2 k => exact h.put _ _
  | case3 k ks _ _ => exact h.put _ _
  | case4 k ks inner _ _ => exact h.put _ _
  | case5 => exact h

theorem distinct_of_nestedFields? {topic : String} {start : List Char} {env : Environment}
    {fs gs : Fields} (hfs : fs.Distinct) (h : nestedFields? topic start env fs = some gs) :
    gs.Distinct := by
  fun_induction nestedFields? topic start env fs with
  | case1 fs => cases h; exact hfs
  | case2 => cases h
  | case3 name text rest fs _ path v _ ih => exact ih (distinct_insertAt v path hfs) h
  | case4 name text rest fs _ ih => exact ih hfs h

theorem distinct_canonicalFields (topic : String) (fs : Fields) :
    (canonicalFields topic fs).Distinct :=
  Fields.Distinct.foldl_put _ _ fs Fields.distinct_nil

theorem isMapping_of_section? {env : Environment} {name : String} {v : Value}
    (h : env.section? name = some (some v)) : v.IsMapping := by
  unfold section? at h
  dsimp only at h
  split at h
  next =>
    obtain ⟨fs, hfs, h⟩ := Option.map_eq_some_iff.mp h
    split at h
    · cases h
    · cases h
      rintro _ ⟨⟩
      exact distinct_of_nestedFields? Fields.distinct_nil hfs
  next text _ =>
    split at h
    next => cases h
    next => cases h
    next =>
      obtain ⟨nested, -, h⟩ := Option.map_eq_some_iff.mp h
      cases h
      rintro _ ⟨⟩
      exact distinct_canonicalFields _ _
    next v _ hobject _ =>
      cases h
      rintro fs rfl
      exact absurd rfl (hobject fs)

theorem isMapping_of_settings {env : Environment} {fs : Fields} (h : env.settings = .ok fs) :
    fs.IsMapping := by
  refine foldlM_induction ?_ .nil h
  intro acc name acc' hacc hstep
  split at hstep
  · cases hstep
  · cases hstep
    exact hacc
  next v hv =>
    cases hstep
    exact hacc.put name (isMapping_of_section? hv)

end Environment

namespace Sources

theorem lower_section {name : String} (h : name ∈ Settings.sections) : Text.lower name = name := by
  obtain rfl | rfl | rfl : name = "logging" ∨ name = "extract" ∨ name = "telemetry" := by
    simpa [Settings.sections] using h
  all_goals decide

/-- At most one field for each section. -/
theorem distinct_filterMap_sections (section? : String → Option (Key × Value))
    (h : ∀ name f, section? name = some f → f.1 = .text name) :
    Fields.Distinct (Settings.sections.filterMap section?) := by
  have hnames : Settings.sections.Nodup := by decide
  rw [Fields.Distinct, Fields.names, List.nodup_iff_pairwise_ne, List.pairwise_map,
    List.pairwise_filterMap]
  refine (List.nodup_iff_pairwise_ne.mp hnames).imp fun {a b} hne f hf g hg hident => hne ?_
  rw [h a f hf, h b g hg] at hident
  exact Key.text.inj hident

theorem distinct_namedSections {overrides : Fields} (h : overrides.Distinct) :
    (namedSections overrides).Distinct := by
  rw [Fields.Distinct, namedSections, Fields.names_append, List.nodup_append]
  refine ⟨distinct_filterMap_sections _ fun name f hf => ?_, ?_, ?_⟩
  · obtain ⟨g, -, rfl⟩ := Option.map_eq_some_iff.mp hf
    rfl
  · exact h.sublist (List.filter_sublist.map _)
  · rintro a ha b hb rfl
    obtain ⟨f, hf, rfl⟩ := List.mem_map.mp ha
    obtain ⟨g, hg, hident⟩ := List.mem_map.mp hb
    obtain ⟨name, hname, hfind⟩ := List.mem_filterMap.mp hf
    obtain ⟨_, _, rfl⟩ := Option.map_eq_some_iff.mp hfind
    have hkey : g.1 = .text name := Key.eq_text_of_ident hident
    -- A field under the very name of a section is one of its spellings, and these were taken out.
    have hspelling : ∀ topic ∈ Settings.sections, Text.lower name ≠ topic := by
      simpa [hkey, Key.text?] using (List.mem_filter.mp hg).2
    exact hspelling name hname (lower_section hname)

theorem isMapping_namedSections {overrides : Fields} (h : overrides.IsMapping) :
    (namedSections overrides).IsMapping := by
  refine ⟨distinct_namedSections h.distinct, fun f hf => ?_⟩
  obtain hf | hf := List.mem_append.mp hf
  · obtain ⟨name, -, hname⟩ := List.mem_filterMap.mp hf
    obtain ⟨g, hg, rfl⟩ := Option.map_eq_some_iff.mp hname
    exact h.values g (List.mem_of_find?_eq_some hg)
  · exact h.values f (List.mem_filter.mp hf).1

end Sources

/-- What each source says, from strong to weak. Overrides stand under the names of the sections that
they spell. -/
structure Layers where
  overrides : Fields
  environment : Fields
  explicit : Fields
  global : Fields

namespace Layers

def ordered (l : Layers) : List Fields := [l.overrides, l.environment, l.explicit, l.global]

/-- All layers merged, in the order in which loading merges them. -/
def merged (l : Layers) : Fields :=
  Fields.overlay (Fields.overlayAll [l.global, l.explicit])
    (Fields.overlay l.environment l.overrides)

end Layers

namespace Sources

/-- Without an explicit file its layer is empty. -/
def explicitLayer (s : Sources) : Except LoadError Fields :=
  match s.explicitPath with
  | none => .ok []
  | some path => readLayer s.yaml s.files (shown path)

/-- The layers, if all can be read. -/
def layers (s : Sources) : Except LoadError Layers := do
  let global ← readLayer s.yaml s.files s.globalPath
  let explicit ← s.explicitLayer
  let environment ← s.environment.settings.mapError .environment
  return { overrides := namedSections s.overrides, environment, explicit, global }

theorem layers_eq_ok {s : Sources} {l : Layers} : s.layers = .ok l ↔
    readLayer s.yaml s.files s.globalPath = .ok l.global ∧ s.explicitLayer = .ok l.explicit ∧
      s.environment.settings = .ok l.environment ∧ namedSections s.overrides = l.overrides := by
  constructor
  · intro h
    obtain ⟨global, hglobal, h⟩ := bind_eq_ok.mp h
    obtain ⟨explicit, hexplicit, h⟩ := bind_eq_ok.mp h
    obtain ⟨environment, henvironment, h⟩ := bind_eq_ok.mp h
    cases h
    exact ⟨hglobal, hexplicit, mapError_eq_ok.mp henvironment, rfl⟩
  · rintro ⟨hglobal, hexplicit, henvironment, hnamed⟩
    simp only [layers, hglobal, hexplicit, henvironment, hnamed]
    rfl

/-- An explicit file has to be there. -/
def checkExplicit (s : Sources) : Except LoadError Unit :=
  match s.explicitPath with
  | none => .ok ()
  | some path => checkPresent s.files (shown path)

theorem readLayers_eq (s : Sources) :
    readLayers s.yaml s.files (s.globalPath :: (s.explicitPath.map shown).toList) = do
      let global ← readLayer s.yaml s.files s.globalPath
      let explicit ← s.explicitLayer
      return Fields.overlayAll [global, explicit] := by
  unfold readLayers explicitLayer
  rw [List.mapM_cons]
  cases readLayer s.yaml s.files s.globalPath with
  | error e => rfl
  | ok global =>
    cases hpath : s.explicitPath with
    | none => rfl
    | some path =>
      rw [Option.map_some, Option.toList_some, List.mapM_cons]
      dsimp only
      cases readLayer s.yaml s.files (shown path) <;> rfl

/-- Merging is reading all layers, after a look at the explicit file. -/
theorem merged_eq (s : Sources) : s.merged = do
    s.checkExplicit
    return (← s.layers).merged := by
  have hread := s.readLayers_eq
  unfold merged checkExplicit layers
  dsimp only
  rw [hread]
  -- The look at the explicit file comes first on both sides, so the layers can be told apart first.
  cases readLayer s.yaml s.files s.globalPath with
  | error e => cases s.explicitPath <;> rfl
  | ok global =>
    cases s.explicitLayer with
    | error e => cases s.explicitPath <;> rfl
    | ok explicit => cases s.environment.settings <;> cases s.explicitPath <;> rfl

theorem merged_of_layers {s : Sources} {l : Layers} (hexplicit : s.checkExplicit = .ok ())
    (hlayers : s.layers = .ok l) : s.merged = .ok l.merged := by
  rw [merged_eq, hexplicit, hlayers]
  rfl

theorem checkExplicit_of_merged {s : Sources} {fs : Fields} (h : s.merged = .ok fs) :
    s.checkExplicit = .ok () := by
  rw [merged_eq] at h
  obtain ⟨_, hexplicit, -⟩ := bind_eq_ok.mp h
  exact hexplicit

theorem layers_of_merged {s : Sources} {fs : Fields} (h : s.merged = .ok fs) :
    ∃ l, s.layers = .ok l ∧ l.merged = fs := by
  rw [merged_eq] at h
  obtain ⟨_, -, h⟩ := bind_eq_ok.mp h
  obtain ⟨l, hlayers, h⟩ := bind_eq_ok.mp h
  exact ⟨l, hlayers, Except.ok.inj h⟩

theorem isMapping_explicitLayer {s : Sources} {fs : Fields} (h : s.explicitLayer = .ok fs) :
    fs.IsMapping := by
  unfold explicitLayer at h
  split at h
  · cases h
    exact .nil
  · exact isMapping_of_readLayer h

theorem isMapping_layers {s : Sources} {l : Layers} (h : s.layers = .ok l)
    (hoverrides : s.overrides.IsMapping) : ∀ layer ∈ l.ordered, layer.IsMapping := by
  obtain ⟨hglobal, hexplicit, henvironment, hnamed⟩ := layers_eq_ok.mp h
  simpa [Layers.ordered, ← hnamed] using ⟨isMapping_namedSections hoverrides,
    Environment.isMapping_of_settings henvironment, isMapping_explicitLayer hexplicit,
    isMapping_of_readLayer hglobal⟩

end Sources
end RustOutline
