import RustOutline.Outline.ModuleSummary
import RustOutline.Proofs.MemberContribution

/-! The flat view keeps the module structure. Depth can be read off a path whose names are not empty
and hold no colon, and the summaries after a module that lie deeper are those of its submodules; so
the modules can be put together again, also where several of them share a path. -/
namespace RustOutline

/-- A module with what it declares itself and its inline modules, both in source order. -/
structure Skeleton where
  name : String
  span : Option Span
  items : List Item
  references : List ModuleReference
  modules : List Skeleton

mutual
def Item.skeleton? : Item → Option Skeleton
  | ⟨name, _, _, _, span, .inlineModule items references⟩ =>
    some ⟨name, some span, items.filter (!·.isModule), references, Item.skeletons items⟩
  | _ => none

def Item.skeletons : List Item → List Skeleton
  | [] => []
  | item :: rest => (Item.skeleton? item).toList ++ Item.skeletons rest
end

/-- The skeleton of a whole file; the crate root has neither name nor span. -/
def Scope.skeleton (file : Scope) : Skeleton where
  name := ""
  span := none
  items := file.items.filter (!·.isModule)
  references := file.references
  modules := Item.skeletons file.items

/-- A name that a path keeps apart from its neighbours. -/
def PlainName (name : String) : Prop := name ≠ "" ∧ ':' ∉ name.toList

/-- All module items of the outline, at any depth, have plain names. -/
def Scope.PlainNames (file : Scope) : Prop :=
  ∀ scope, file.Contains scope → ∀ item ∈ scope.items, item.isModule → PlainName item.name

/-- How many names make up the path: none if it is empty, else one more than it has separators. -/
def ModuleSummary.depth (m : ModuleSummary) : Nat :=
  if m.path = "" then 0 else m.path.toList.count ':' / 2 + 1

namespace Skeleton

/-- Puts the module of a summary before those that were built from the later summaries. Those that
directly follow and lie deeper become its submodules. -/
def attach (m : ModuleSummary) (built : List (Nat × Skeleton)) : List (Nat × Skeleton) :=
  (m.depth, ⟨m.name, m.span, m.items, m.references,
    (built.takeWhile (m.depth < ·.1)).map Prod.snd⟩) :: built.dropWhile (m.depth < ·.1)

/-- The crate root with all modules put together again from their summaries. -/
def rebuild (summaries : List ModuleSummary) : Option Skeleton :=
  (summaries.foldr attach []).head?.map Prod.snd

end Skeleton

namespace Item

theorem skeletons_eq_filterMap (items : List Item) : skeletons items = items.filterMap skeleton? := by
  induction items with
  | nil => simp [skeletons]
  | cons item rest ih =>
    rw [skeletons, ih, List.filterMap_cons]
    cases skeleton? item <;> rfl

theorem skeleton?_eq (item : Item) :
    item.skeleton? = item.inner?.map fun inner =>
      ⟨item.name, some item.span, inner.items.filter (!·.isModule), inner.references,
        skeletons inner.items⟩ := by
  obtain ⟨name, rawText, doc, visibility, span, details⟩ := item
  cases details <;> simp [skeleton?, inner?]

theorem skeleton?_eq_none {item : Item} (h : item.isModule = false) : item.skeleton? = none := by
  have hinner : item.inner? = none := by simpa [isModule] using h
  rw [skeleton?_eq, hinner]
  rfl

end Item

namespace Scope.Contains
variable {scope inner other : Scope} {item : Item}

theorem ofInner (mem : item ∈ scope.items) (nested : item.inner? = some inner)
    (h : inner.Contains other) : scope.Contains other := by
  induction h with
  | self => exact .inner .self mem nested
  | inner _ mem' nested' ih => exact .inner ih mem' nested'

theorem eq_or_inner (h : scope.Contains other) :
    other = scope ∨
      ∃ item ∈ scope.items, ∃ inner, item.inner? = some inner ∧ inner.Contains other := by
  induction h with
  | self => exact .inl rfl
  | inner _ mem nested ih =>
    rcases ih with rfl | ⟨item, mem', inner, nested', hc⟩
    · exact .inr ⟨_, mem, _, nested, .self⟩
    · exact .inr ⟨item, mem', inner, nested', .inner hc mem nested⟩

end Scope.Contains

namespace Scope.PlainNames
variable {scope inner : Scope} {item : Item}

theorem name (h : scope.PlainNames) (mem : item ∈ scope.items) (hm : item.isModule) :
    PlainName item.name := h scope .self item mem hm

theorem ofInner (h : scope.PlainNames) (mem : item ∈ scope.items)
    (nested : item.inner? = some inner) : inner.PlainNames :=
  fun other hc => h other (.ofInner mem nested hc)

theorem ofItems (h : ∀ item ∈ scope.items, ∀ inner, item.inner? = some inner →
    PlainName item.name ∧ inner.PlainNames) : scope.PlainNames := by
  intro other hc item mem hm
  rcases hc.eq_or_inner with rfl | ⟨outer, mem', inner, nested, hc⟩
  · obtain ⟨inner, nested⟩ := Option.isSome_iff_exists.mp hm
    exact (h item mem inner nested).1
  · exact (h outer mem' inner nested).2 other hc item mem hm

end Scope.PlainNames

namespace ModuleSummary

theorem count_pathText {segments : List String} (h : ∀ s ∈ segments, PlainName s) :
    (pathText segments).toList.count ':' = 2 * (segments.length - 1) := by
  have hcount {s : String} (hs : PlainName s) : s.toList.count ':' = 0 :=
    List.count_eq_zero.mpr hs.2
  unfold pathText
  induction segments with
  | nil => simp
  | cons first rest ih =>
    have hfirst := hcount (h first List.mem_cons_self)
    cases rest with
    | nil => simpa using hfirst
    | cons second rest =>
      rw [String.intercalate_cons_of_ne_nil (by simp), String.toList_append, String.toList_append,
        List.count_append, List.count_append, hfirst,
        ih fun s hs => h s (List.mem_cons_of_mem _ hs)]
      simp only [List.length_cons]
      have hseparator : "::".toList.count ':' = 2 := by decide
      omega

theorem pathText_ne_empty {segments : List String} (h : ∀ s ∈ segments, PlainName s)
    (hne : segments ≠ []) : pathText segments ≠ "" := by
  unfold pathText
  cases segments with
  | nil => exact absurd rfl hne
  | cons first rest =>
    have hfirst := (h first List.mem_cons_self).1
    cases rest with
    | nil => simpa using hfirst
    | cons second rest =>
      rw [String.intercalate_cons_of_ne_nil (by simp)]
      simp [hfirst]

theorem depth_eq_length {m : ModuleSummary} {segments : List String}
    (hpath : m.path = pathText segments) (h : ∀ s ∈ segments, PlainName s) :
    m.depth = segments.length := by
  rw [depth, hpath]
  cases segments with
  | nil => simp [pathText]
  | cons first rest =>
    rw [if_neg (pathText_ne_empty h (by simp)), count_pathText h]
    simp

/-- A pending module whose path, and those of all modules inside, can be told apart. -/
structure Pending.Plain (p : Pending) : Prop where
  path : ∀ s ∈ p.1, PlainName s
  inside : ∀ inner, p.2.inner? = some inner → inner.PlainNames

/-- Modules that wait longer lie no deeper. -/
def Descending (ps : List Pending) : Prop := ps.Pairwise fun p q => q.1.length ≤ p.1.length

theorem length_of_mem_pending {segments : List String} {items : List Item} {p : Pending}
    (hp : p ∈ pending segments items) : p.1.length = segments.length + 1 := by
  obtain ⟨item, _, rfl⟩ := List.mem_map.mp hp
  simp

theorem plain_of_mem_pending {segments : List String} {scope : Scope} {p : Pending}
    (hs : ∀ s ∈ segments, PlainName s) (h : scope.PlainNames) (hp : p ∈ pending segments scope.items) :
    p.Plain := by
  obtain ⟨item, hi, rfl⟩ := List.mem_map.mp hp
  obtain ⟨hmem, hm⟩ := List.mem_filter.mp hi
  refine ⟨fun s hmem' => ?_, fun inner nested => h.ofInner hmem nested⟩
  rcases List.mem_append.mp hmem' with hmem' | hmem'
  · exact hs s hmem'
  · rw [List.mem_singleton.mp hmem']
    exact h.name hmem hm

theorem descending_pending (segments : List String) (items : List Item) :
    Descending (pending segments items) := by
  refine List.pairwise_of_forall_mem_list fun p hp q hq => ?_
  have hp := length_of_mem_pending hp
  have hq := length_of_mem_pending hq
  omega

theorem Descending.step {segments : List String} {item : Item} {rest : List Pending}
    (h : Descending ((segments, item) :: rest)) (items : List Item) :
    Descending (pending segments items ++ rest) := by
  obtain ⟨hhead, hrest⟩ := List.pairwise_cons.mp h
  refine List.pairwise_append.mpr ⟨descending_pending segments items, hrest, fun p hp q hq => ?_⟩
  have hlength := length_of_mem_pending hp
  have hq : q.1.length ≤ segments.length := hhead q hq
  omega

/-- The skeleton of a pending module at its depth. -/
def Pending.built? (p : Pending) : Option (Nat × Skeleton) := p.2.skeleton?.map (p.1.length, ·)

theorem filterMap_pending (segments : List String) (items : List Item) :
    (pending segments items).filterMap Pending.built? =
      (Item.skeletons items).map (segments.length + 1, ·) := by
  rw [Item.skeletons_eq_filterMap, pending, List.filterMap_map, List.filterMap_filter,
    List.map_filterMap]
  refine congrArg (List.filterMap · items) (funext fun item => ?_)
  cases h : item.isModule with
  | true => simp [Pending.built?]
  | false => simp [Item.skeleton?_eq_none h]

/-- Of what was built, exactly the submodules lie deeper than their module. -/
theorem attach_built {m : ModuleSummary} {deeper : List Skeleton} {rest : List (Nat × Skeleton)}
    {depth : Nat} (hm : m.depth = depth) (hrest : ∀ b ∈ rest, b.1 ≤ depth) :
    Skeleton.attach m (deeper.map (depth + 1, ·) ++ rest) =
      (depth, ⟨m.name, m.span, m.items, m.references, deeper⟩) :: rest := by
  have hdeeper : ∀ b ∈ deeper.map (depth + 1, ·), decide (depth < b.1) = true := by
    intro b hb
    obtain ⟨k, _, rfl⟩ := List.mem_map.mp hb
    simp
  have hstop : rest.takeWhile (depth < ·.1) = [] ∧ rest.dropWhile (depth < ·.1) = rest := by
    cases rest with
    | nil => exact ⟨rfl, rfl⟩
    | cons b rest =>
      have hb := hrest b List.mem_cons_self
      simp [Nat.not_lt.mpr hb]
  rw [Skeleton.attach, hm, List.takeWhile_append_of_pos hdeeper, List.dropWhile_append_of_pos hdeeper,
    hstop.1, hstop.2]
  simp [Function.comp_def]

/-- What is rebuilt from the summaries of pending modules is the modules themselves. -/
theorem foldr_attach_list {ps : List Pending} (plain : ∀ p ∈ ps, p.Plain) (order : Descending ps) :
    (list ps).foldr Skeleton.attach [] = ps.filterMap Pending.built? := by
  fun_induction list ps with
  | case1 => rfl
  | case2 segments item rest nested ih =>
    have hnone : Pending.built? (segments, item) = none := by
      simp [Pending.built?, Item.skeleton?_eq, nested]
    rw [List.filterMap_cons_none hnone]
    exact ih (fun p hp => plain p (List.mem_cons_of_mem _ hp)) order.of_cons
  | case3 segments item rest inner nested ih =>
    have hitem := plain (segments, item) List.mem_cons_self
    have hsome : Pending.built? (segments, item) = some (segments.length,
        ⟨item.name, some item.span, inner.items.filter (!·.isModule), inner.references,
          Item.skeletons inner.items⟩) := by
      simp [Pending.built?, Item.skeleton?_eq, nested]
    have hplain : ∀ p ∈ pending segments inner.items ++ rest, p.Plain := by
      intro p hp
      rcases List.mem_append.mp hp with hp | hp
      · exact plain_of_mem_pending hitem.path (hitem.inside inner nested) hp
      · exact plain p (List.mem_cons_of_mem _ hp)
    -- what waits behind the submodules is no deeper than the module, so it is not taken for one
    have hrest : ∀ b ∈ rest.filterMap Pending.built?, b.1 ≤ segments.length := by
      intro b hb
      obtain ⟨p, hp, hb⟩ := List.mem_filterMap.mp hb
      obtain ⟨_, _, rfl⟩ := Option.map_eq_some_iff.mp hb
      exact (List.pairwise_cons.mp order).1 p hp
    rw [List.foldr_cons, ih hplain (order.step inner.items), List.filterMap_append,
      filterMap_pending, attach_built (depth_eq_length rfl hitem.path) hrest,
      List.filterMap_cons_some hsome]
    rfl

end ModuleSummary

/-- The flat view can be put together again: it determines the forest of inline modules with the
name, the span, the declarations and the references of each. -/
theorem rebuild_flattenModules {file : Scope} (plain : file.PlainNames) :
    Skeleton.rebuild (flattenModules file) = some file.skeleton := by
  have hlist : (ModuleSummary.list (ModuleSummary.pending [] file.items)).foldr Skeleton.attach [] =
      (Item.skeletons file.items).map (0 + 1, ·) := by
    rw [ModuleSummary.foldr_attach_list, ModuleSummary.filterMap_pending]
    · rfl
    · exact fun p hp => ModuleSummary.plain_of_mem_pending (by simp) plain hp
    · exact ModuleSummary.descending_pending [] file.items
  rw [Skeleton.rebuild, flattenModules, List.foldr_cons, hlist,
    ← List.append_nil ((Item.skeletons file.items).map _),
    ModuleSummary.attach_built (by rfl) (by simp)]
  rfl

namespace RepeatedName

/-- Three modules of one name, two of them with the same path: `mod a { mod a {} }` and then
`mod a { mod r; }`. -/
def item (start stop : Nat) (items : List Item) (references : List ModuleReference) : Item where
  name := "a"
  rawText := ""
  doc := none
  visibility := .inherited
  span := ⟨start, stop, 1, start + 1, 1, stop + 1⟩
  details := .inlineModule items references

def reference : ModuleReference where
  name := "r"
  visibility := .inherited
  expectedPaths := ["a/r.rs", "a/r/mod.rs"]
  span := ⟨27, 33, 1, 28, 1, 34⟩

def file : Scope := ⟨[item 0 18 [item 8 16 [] []] [], item 19 35 [] [reference]], []⟩

private theorem item_plain {start stop : Nat} {items : List Item} {references : List ModuleReference}
    (h : Scope.PlainNames ⟨items, references⟩) :
    ∀ inner, (item start stop items references).inner? = some inner →
      PlainName (item start stop items references).name ∧ inner.PlainNames := by
  intro inner nested
  obtain rfl := Option.some.inj nested
  have hname : PlainName "a" := ⟨by decide, by decide⟩
  exact ⟨hname, h⟩

private theorem file_plain : file.PlainNames := by
  have hempty (references : List ModuleReference) : Scope.PlainNames ⟨[], references⟩ :=
    .ofItems (by simp)
  refine .ofItems (List.forall_mem_cons.mpr ⟨item_plain (.ofItems ?_), ?_⟩)
  · exact List.forall_mem_singleton.mpr (item_plain (hempty _))
  · exact List.forall_mem_singleton.mpr (item_plain (hempty _))

theorem rebuilt :
    file.PlainNames ∧ Skeleton.rebuild (flattenModules file) = some file.skeleton ∧
      file.skeleton.modules.map (·.modules.length) = [1, 0] :=
  ⟨file_plain, rebuild_flattenModules file_plain, rfl⟩

end RepeatedName
end RustOutline
