import RustOutline.Proofs.SourceLayers
import RustOutline.Yaml.Reader

/-! Fields laid over others, seen from a path of names. What lies above decides as far as it leads;
where an object on the way lacks the next name, what lies below shows through, at any depth. -/
namespace RustOutline

namespace Value

/-- The value that a path of names leads to. From a value that is no object no name leads on. -/
def at? : List Key → Value → Option Value
  | [], v => some v
  | name :: path, v => (v.field? name).bind (at? path)

theorem field?_of_not_isObject {v : Value} (h : v.isObject = false) (name : Key) :
    v.field? name = none := by
  cases v with
  | obj fs => cases h
  | _ => rfl

theorem at?_append (path rest : List Key) (v : Value) :
    at? (path ++ rest) v = (at? path v).bind (at? rest) := by
  induction path generalizing v with
  | nil => rfl
  | cons name path ih =>
    rw [List.cons_append, at?, at?]
    cases v.field? name with
    | none => rfl
    | some w => exact ih w

/-- A path that leads nowhere does so at some name. -/
theorem exists_field?_eq_none {path : List Key} {v : Value} (h : at? path v = none) :
    ∃ before name after u, path = before ++ name :: after ∧ at? before v = some u ∧
      u.field? name = none := by
  induction path generalizing v with
  | nil => cases h
  | cons name path ih =>
    cases hfield : v.field? name with
    | none => exact ⟨[], name, path, v, rfl, rfl, hfield⟩
    | some w =>
      have hrest : at? path w = none := by simpa [at?, hfield] using h
      obtain ⟨before, next, after, u, rfl, hu, hnone⟩ := ih hrest
      exact ⟨name :: before, next, after, u, rfl, by simpa [at?, hfield] using hu, hnone⟩

end Value

namespace Fields

/-- The value that a path of names leads to. -/
def at? (path : List Key) (fs : Fields) : Option Value := Value.at? path (.obj fs)

/-- The path comes to an object without the next name. -/
def Lacks (path : List Key) (fs : Fields) : Prop :=
  ∃ before name after inner, path = before ++ name :: after ∧
    fs.at? before = some (.obj inner) ∧ get? name inner = none

/-- Where a path leads somewhere in both, it leads to objects in both or in neither. -/
def Fits (fs gs : Fields) : Prop :=
  ∀ path v w, fs.at? path = some v → gs.at? path = some w → v.isObject = w.isObject

theorem get?_of_mem {fs : Fields} (h : fs.Distinct) {f : Key × Value} (hf : f ∈ fs) :
    get? f.1 fs = some f.2 := by
  induction fs with
  | nil => cases hf
  | cons g fs ih =>
    obtain ⟨hg, hfs⟩ := List.nodup_cons.mp h
    rw [get?_cons]
    rcases List.mem_cons.mp hf with rfl | hf
    · rw [if_pos rfl]
    · have hne : g.1.ident ≠ f.1.ident := by
        intro heq
        exact hg (List.mem_map.mpr ⟨f, hf, heq.symm⟩)
      rw [if_neg hne, ih hfs hf]

theorem put_get? {k : Key} {v : Value} {fs : Fields} (h : get? k fs = some v) :
    put k v fs = fs := by
  induction fs with
  | nil => cases h
  | cons f fs ih =>
    obtain ⟨k', w⟩ := f
    rw [get?_cons] at h
    rw [put]
    split at h
    · next heq => rw [if_pos heq, Option.some.inj h]
    · next hne => rw [if_neg hne, ih h]

theorem overlay_of_distinct {seen fs : Fields} (h : (seen ++ fs).Distinct) :
    overlay seen fs = seen ++ fs := by
  induction fs generalizing seen with
  | nil => rw [overlay, List.append_nil]
  | cons f fs ih =>
    obtain ⟨k, v⟩ := f
    have hnew : k.ident ∉ names seen := by
      intro hmem
      have hdisjoint := (List.nodup_append.mp (by simpa [Distinct] using h)).2.2
      exact hdisjoint _ hmem _ List.mem_cons_self rfl
    rw [overlay, get?_eq_none hnew, Value.over_none, put_of_not_mem hnew, ih (by simpa using h)]
    simp

theorem overlay_eq_self {base top : Fields}
    (h : ∀ f ∈ top, ∃ v, get? f.1 base = some v ∧ Value.over (some v) f.2 = v) :
    overlay base top = base := by
  induction top with
  | nil => rw [overlay]
  | cons f top ih =>
    obtain ⟨hf, htop⟩ := List.forall_mem_cons.mp h
    obtain ⟨v, hget, hover⟩ := hf
    rw [overlay, hget, hover, put_get? hget, ih htop]

end Fields

namespace Value

/-- An object is merged with an object below it, and replaces anything else. -/
theorem over_obj_cases (old : Option Value) (fs : Fields) :
    (∃ base, old = some (.obj base) ∧ Value.over old (.obj fs) = .obj (Fields.overlay base fs)) ∨
      ((∀ base, old ≠ some (.obj base)) ∧ Value.over old (.obj fs) = .obj fs) := by
  unfold Value.over
  split
  · next base => exact .inl ⟨base, rfl, rfl⟩
  · next hother => exact .inr ⟨hother, rfl⟩

theorem over_over {v : Value} (h : v.Unambiguous) (old : Option Value) :
    Value.over (some (Value.over old v)) v = Value.over old v := by
  induction h generalizing old with
  | leaf plain => rw [over_of_not_isObject plain, over_of_not_isObject plain]
  | @object fs distinct values ih =>
    obtain ⟨base, rfl, hover⟩ | ⟨-, hover⟩ := over_obj_cases old fs
    · rw [hover]
      apply congrArg Value.obj
      apply Fields.overlay_eq_self
      intro f hf
      refine ⟨Value.over (Fields.get? f.1 base) f.2, ?_, ih f hf _⟩
      rw [Fields.get?_overlay distinct, Fields.get?_of_mem distinct hf]
    · rw [hover]
      apply congrArg Value.obj
      apply Fields.overlay_eq_self
      intro f hf
      exact ⟨f.2, Fields.get?_of_mem distinct hf, by simpa using ih f hf none⟩

/-- A field that an object laid over has decides, and where it has none what lies below. -/
theorem field?_over {fs : Fields} (h : fs.Distinct) (old : Option Value) (name : Key) :
    (Value.over old (.obj fs)).field? name =
      match Fields.get? name fs with
      | none => old.bind (field? name)
      | some v => some (Value.over (old.bind (field? name)) v) := by
  obtain ⟨base, rfl, hover⟩ | ⟨hother, hover⟩ := over_obj_cases old fs
  · rw [hover, field?, Fields.get?_overlay h]
    rfl
  · have hbelow : old.bind (field? name) = none := by
      cases old with
      | none => rfl
      | some w => cases w with
        | obj base => exact absurd rfl (hother base)
        | _ => rfl
    rw [hover, field?, hbelow]
    cases Fields.get? name fs <;> simp

/-- Where a value leads somewhere, what lies below it counts only at the end of the path. -/
theorem at?_over {path : List Key} {v w : Value} (h : v.Unambiguous) (hat : v.at? path = some w)
    (old : Option Value) :
    (Value.over old v).at? path = some (Value.over (old.bind (at? path)) w) := by
  induction path generalizing v old with
  | nil =>
    obtain rfl := Option.some.inj hat
    cases old <;> rfl
  | cons name path ih =>
    obtain ⟨u, hfield, hrest⟩ := Option.bind_eq_some_iff.mp hat
    cases h with
    | leaf plain => cases (field?_of_not_isObject plain name).symm.trans hfield
    | @object fs distinct values =>
      have hget : Fields.get? name fs = some u := hfield
      obtain ⟨k, hmem⟩ := Fields.exists_mem_of_get? hget
      rw [at?, field?_over distinct, hget]
      simp only [Option.bind_some]
      rw [ih (values _ hmem) hrest, Option.bind_assoc]
      rfl

theorem Unambiguous.at? {path : List Key} {v w : Value} (h : v.Unambiguous)
    (hat : v.at? path = some w) : w.Unambiguous := by
  induction path generalizing v with
  | nil => exact Option.some.inj hat ▸ h
  | cons name path ih =>
    obtain ⟨u, hfield, hrest⟩ := Option.bind_eq_some_iff.mp hat
    cases h with
    | leaf plain => cases (field?_of_not_isObject plain name).symm.trans hfield
    | @object fs distinct values =>
      obtain ⟨k, hmem⟩ := Fields.exists_mem_of_get? hfield
      exact ih (values _ hmem) hrest

end Value

namespace Fields
variable {base top fs : Fields} {path : List Key}

theorem overlay_overlay (h : top.Unambiguous) (base : Fields) :
    overlay (overlay base top) top = overlay base top :=
  Value.obj.inj (Value.over_over h (some (.obj base)))

theorem overlay_self (h : fs.Unambiguous) : overlay fs fs = fs := by
  have hnil : overlay [] fs = fs := overlay_of_distinct h.distinct
  have htwice := overlay_overlay h []
  rwa [hnil] at htwice

theorem at?_overlay {v : Value} (h : top.Unambiguous) (hat : top.at? path = some v)
    (base : Fields) : at? path (overlay base top) = some (Value.over (base.at? path) v) :=
  Value.at?_over h hat (some (.obj base))

/-- Where an object above lacks the next name, what lies below shows. -/
theorem at?_overlay_of_lacks (h : top.Unambiguous) (hlacks : top.Lacks path) :
    at? path (overlay base top) = base.at? path := by
  obtain ⟨before, name, after, inner, rfl, hbefore, hnone⟩ := hlacks
  have hinner : Unambiguous inner := Value.Unambiguous.at? h hbefore
  have hreached := at?_overlay h hbefore base
  unfold at? at hreached ⊢
  rw [Value.at?_append, Value.at?_append, hreached, Option.bind_some, Value.at?,
    Value.field?_over hinner.distinct, hnone, Option.bind_assoc]
  rfl

theorem fits_nil (fs : Fields) : Fits [] fs := by
  intro path v w hv hw
  cases path with
  | nil =>
    obtain rfl := Option.some.inj hv
    obtain rfl := Option.some.inj hw
    rfl
  | cons name path => cases hv

/-- Where fields fit, the upper ones decide wherever they lead, and the lower ones elsewhere. -/
theorem at?_overlay_of_fits (h : top.Unambiguous) (hfits : base.Fits top) (path : List Key) :
    at? path (overlay base top) =
      match top.at? path with
      | none => base.at? path
      | some v => some (Value.over (base.at? path) v) := by
  cases hat : top.at? path with
  | some v => exact at?_overlay h hat base
  | none =>
    obtain ⟨before, name, after, u, rfl, hbefore, hnone⟩ := Value.exists_field?_eq_none hat
    cases hu : u.isObject with
    | true =>
      cases u with
      | obj inner => exact at?_overlay_of_lacks h ⟨before, name, after, inner, rfl, hbefore, hnone⟩
      | _ => cases hu
    | false =>
      -- The path ends early above. Below it cannot go on, as no object stands there either.
      have hmerged := at?_overlay h hbefore base
      rw [Value.over_of_not_isObject hu] at hmerged
      have hbelow : (base.at? before).bind (Value.at? (name :: after)) = none := by
        cases hbase : base.at? before with
        | none => rfl
        | some w =>
          have hw : w.isObject = false := (hfits before w u hbase hbefore).trans hu
          simp [Value.at?, Value.field?_of_not_isObject hw]
      unfold at? at hmerged hbelow ⊢
      rw [Value.at?_append, Value.at?_append, hmerged, hbelow]
      simp [Value.at?, hnone]

theorem Fits.overlay {other : Fields} (htop : top.Unambiguous) (h : base.Fits top)
    (hbase : base.Fits other) (hother : top.Fits other) : Fits (Fields.overlay base top) other := by
  intro path v w hv hw
  rw [at?_overlay_of_fits htop h] at hv
  cases hat : top.at? path with
  | none =>
    rw [hat] at hv
    exact hbase path v w hv hw
  | some u =>
    rw [hat] at hv
    obtain rfl := Option.some.inj hv
    rw [Value.isObject_over]
    exact hother path u w hat hw

/-- Values that are alike are the same where one of them is no object. -/
theorem Alike.eq_some_iff {a b : Option Value} (h : Alike a b) {v : Value}
    (plain : v.isObject = false) : a = some v ↔ b = some v := by
  cases a with
  | none =>
    cases b with
    | none => rfl
    | some w => cases h
  | some u =>
    cases b with
    | none => cases h
    | some w =>
      obtain rfl | ⟨hu, hw⟩ := h
      · rfl
      · constructor <;> rintro ⟨⟩ <;> simp_all

theorem alike_over (old : Option Value) (v : Value) : Alike (some (Value.over old v)) (some v) := by
  cases hv : v.isObject with
  | true => exact .inr ⟨by rw [Value.isObject_over, hv], hv⟩
  | false => exact .inl (Value.over_of_not_isObject hv old)

/-- Layers that fit, merged in order: at every path the last one that leads somewhere decides. -/
theorem alike_at?_foldl {layers : List Fields} {base : Fields} {w : Option Value}
    (h : ∀ layer ∈ layers, layer.Unambiguous) (hfits : (base :: layers).Pairwise Fits)
    (path : List Key) (hbase : Alike (base.at? path) w) :
    Alike (at? path (layers.foldl overlay base))
      ((layers.reverse.findSome? (at? path)).or w) := by
  induction layers generalizing base w with
  | nil => exact hbase
  | cons layer layers ih =>
    obtain ⟨hlayer, hlayers⟩ := List.forall_mem_cons.mp h
    obtain ⟨hbelow, habove⟩ := List.pairwise_cons.mp hfits
    obtain ⟨hnext, hrest⟩ := List.pairwise_cons.mp habove
    have hfirst := hbelow layer List.mem_cons_self
    -- What was merged so far fits the layers to come, as both of its parts do.
    have hmerged : (Fields.overlay base layer :: layers).Pairwise Fits := by
      refine List.pairwise_cons.mpr ⟨fun other hother => ?_, hrest⟩
      exact Fits.overlay hlayer hfirst (hbelow other (List.mem_cons_of_mem _ hother))
        (hnext other hother)
    have hstep : Alike (at? path (Fields.overlay base layer)) ((layer.at? path).or w) := by
      rw [at?_overlay_of_fits hlayer hfirst]
      cases layer.at? path with
      | none => exact hbase
      | some v => exact alike_over _ v
    simpa [List.findSome?_append, Option.or_assoc] using ih hlayers hmerged hstep

/-- A value that is no object comes from the last layer that has something at its path. -/
theorem at?_overlayAll {layers : List Fields} (h : ∀ layer ∈ layers, layer.Unambiguous)
    (hfits : layers.Pairwise Fits) (path : List Key) {v : Value} (plain : v.isObject = false) :
    at? path (overlayAll layers) = some v ↔ layers.reverse.findSome? (at? path) = some v := by
  have hall : (([] : Fields) :: layers).Pairwise Fits :=
    List.pairwise_cons.mpr ⟨fun layer _ => fits_nil layer, hfits⟩
  have halike := alike_at?_foldl h hall path (alike_refl (at? path []))
  rw [overlayAll, halike.eq_some_iff plain]
  -- Empty fields have nothing but themselves.
  have hempty : at? path [] ≠ some v := by
    intro hv
    cases path with
    | nil => cases Option.some.inj hv ▸ plain
    | cons name path => cases hv
  cases layers.reverse.findSome? (at? path) <;> simp [hempty]

end Fields

/-- Laying over goes by paths. What the upper fields have at a path stands there, an object merged
with an object below it; where they lack a name on the way, what lies below shows. So empty fields
change nothing and are changed to what is laid over them, and laying over once more changes nothing.
Of layers that agree on what is an object the last one that leads somewhere decides; files are such
layers as far as names go. -/
theorem overlay_decides_by_path :
    (∀ base top : Fields, top.Unambiguous → ∀ path : List Key,
      (∀ v, top.at? path = some v → v.isObject = false →
        Fields.at? path (Fields.overlay base top) = some v) ∧
      (top.Lacks path → Fields.at? path (Fields.overlay base top) = base.at? path) ∧
      ∀ fs, top.at? path = some (.obj fs) →
        (∀ gs, base.at? path = some (.obj gs) →
          Fields.at? path (Fields.overlay base top) = some (.obj (Fields.overlay gs fs))) ∧
        ((∀ gs, base.at? path ≠ some (.obj gs)) →
          Fields.at? path (Fields.overlay base top) = some (.obj fs))) ∧
    (∀ fs : Fields, fs.Unambiguous →
      Fields.overlay [] fs = fs ∧ Fields.overlay fs [] = fs ∧ Fields.overlay fs fs = fs) ∧
    (∀ base top : Fields, top.Unambiguous →
      Fields.overlay (Fields.overlay base top) top = Fields.overlay base top) ∧
    (∀ layers : List Fields, (∀ layer ∈ layers, layer.Unambiguous) →
      layers.Pairwise Fields.Fits → ∀ path v, v.isObject = false →
        (Fields.at? path (Fields.overlayAll layers) = some v ↔
          layers.reverse.findSome? (Fields.at? path) = some v)) ∧
    ∀ (yaml : Yaml.Reader) (files : Files) (path : String) (fs : Fields),
      readLayer yaml files path = .ok fs → fs.Unambiguous := by
  refine ⟨fun base top h path => ⟨fun v hv plain => ?_, ?_, fun fs hfs => ⟨?_, ?_⟩⟩, fun fs h => ?_,
    fun base top h => Fields.overlay_overlay h base,
    fun layers h hfits path v => Fields.at?_overlayAll h hfits path,
    fun yaml files path fs => unambiguous_of_readLayer⟩
  · rw [Fields.at?_overlay h hv, Value.over_of_not_isObject plain]
  · exact Fields.at?_overlay_of_lacks h
  · intro gs hgs
    rw [Fields.at?_overlay h hfs, hgs]
    rfl
  · intro hother
    obtain ⟨gs, hgs, -⟩ | ⟨-, hover⟩ := Value.over_obj_cases (base.at? path) fs
    · exact absurd hgs (hother gs)
    · rw [Fields.at?_overlay h hfs, hover]
  · exact ⟨Fields.overlay_of_distinct h.distinct, by rw [Fields.overlay], Fields.overlay_self h⟩

namespace ChangedSection

/-- Fields that change a section and replace a value in it by an object, and two layers that fit. -/
def low : Fields := [("a", .obj [("x", .int 1), ("y", .int 2)]), ("b", .int 3)]

def high : Fields := [("a", .obj [("y", .obj [("z", .int 4)])])]

def last : Fields := [("b", .int 5)]

def files : Files :=
  .ofNames ["work"] [("own.yaml", .file (Utf8.encode "a:\n  x: 1\n  y: 2\nb: 3\n"))]

theorem low_unambiguous : low.Unambiguous := by
  have hinner : Fields.Unambiguous [("x", .int 1), ("y", .int 2)] :=
    .object (by decide)
      (List.forall_mem_cons.mpr ⟨.leaf rfl, List.forall_mem_singleton.mpr (.leaf rfl)⟩)
  exact .object (by decide)
    (List.forall_mem_cons.mpr ⟨hinner, List.forall_mem_singleton.mpr (.leaf rfl)⟩)

theorem high_unambiguous : high.Unambiguous := by
  have hinner : Fields.Unambiguous [("z", .int 4)] :=
    .object (by decide) (List.forall_mem_singleton.mpr (.leaf rfl))
  have houter : Fields.Unambiguous [("y", .obj [("z", .int 4)])] :=
    .object (by decide) (List.forall_mem_singleton.mpr hinner)
  exact .object (by decide) (List.forall_mem_singleton.mpr houter)

theorem last_unambiguous : last.Unambiguous :=
  .object (by decide) (List.forall_mem_singleton.mpr (.leaf rfl))

theorem low_fits_last : low.Fits last := by
  intro path v w hv hw
  cases path with
  | nil =>
    obtain rfl := Option.some.inj hv
    obtain rfl := Option.some.inj hw
    rfl
  | cons name path =>
    obtain ⟨u, hu, hrest⟩ := Option.bind_eq_some_iff.mp hw
    obtain ⟨hname, rfl⟩ : Key.ident "b" = name.ident ∧ .int 5 = u := by
      simpa [Value.field?, last, Fields.get?_cons] using hu
    obtain rfl : name = .text "b" := Key.eq_text_of_ident hname.symm
    cases path with
    | nil =>
      obtain rfl := Option.some.inj hrest
      obtain rfl : .int 3 = v := Option.some.inj hv
      rfl
    | cons next path => cases hrest

theorem decided_by_path :
    high.Unambiguous ∧ high.Lacks ["a", "x"] ∧ high.at? ["a", "y", "z"] = some (.int 4) ∧
    Fields.at? ["a", "x"] (Fields.overlay low high) = some (.int 1) ∧
    Fields.at? ["a", "y", "z"] (Fields.overlay low high) = some (.int 4) ∧
    Fields.at? ["a", "y"] (Fields.overlay low high) = some (.obj [("z", .int 4)]) ∧
    Fields.at? ["a"] (Fields.overlay low high) = some (.obj (Fields.overlay
      [("x", .int 1), ("y", .int 2)] [("y", .obj [("z", .int 4)])])) ∧
    Fields.overlay high high = high ∧
    Fields.overlay (Fields.overlay low high) high = Fields.overlay low high ∧
    [low, last].Pairwise Fields.Fits ∧
    Fields.at? ["a", "y"] (Fields.overlayAll [low, last]) = some (.int 2) ∧
    Fields.at? ["b"] (Fields.overlayAll [low, last]) = some (.int 5) ∧
    ∃ fs, readLayer Yaml.reader files "own.yaml" = .ok fs ∧ fs.Unambiguous := by
  have hlacks : high.Lacks ["a", "x"] := ⟨["a"], "x", [], _, rfl, rfl, rfl⟩
  have hfits : [low, last].Pairwise Fields.Fits := by simpa using low_fits_last
  have hlayers : ∀ layer ∈ [low, last], layer.Unambiguous := by
    simpa using ⟨low_unambiguous, last_unambiguous⟩
  have hread : (readLayer Yaml.reader files "own.yaml").toOption.isSome = true := by decide +kernel
  obtain ⟨hpaths, hself, htwice, hall, hfiles⟩ := overlay_decides_by_path
  obtain ⟨hleaf, -, -⟩ := hpaths low high high_unambiguous ["a", "y", "z"]
  obtain ⟨-, hbelow, -⟩ := hpaths low high high_unambiguous ["a", "x"]
  obtain ⟨-, -, hmerged⟩ := hpaths low high high_unambiguous ["a"]
  obtain ⟨-, -, hreplaced⟩ := hpaths low high high_unambiguous ["a", "y"]
  refine ⟨high_unambiguous, hlacks, rfl, hbelow hlacks, hleaf _ rfl rfl, (hreplaced _ rfl).2 ?_,
    (hmerged _ rfl).1 _ rfl, (hself high high_unambiguous).2.2, htwice low high high_unambiguous,
    hfits, (hall _ hlayers hfits _ _ rfl).mpr rfl, (hall _ hlayers hfits _ _ rfl).mpr rfl, ?_⟩
  · rintro gs ⟨⟩
  · cases hok : readLayer Yaml.reader files "own.yaml" with
    | error e => simp [hok, Except.toOption] at hread
    | ok fs => exact ⟨fs, rfl, hfiles Yaml.reader files "own.yaml" fs hok⟩

end ChangedSection
end RustOutline
