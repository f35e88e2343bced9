import RustOutline.Proofs.DeclarationAccount
import RustOutline.Proofs.ModulePaths

/-! The flat view lists the scopes of a file in pre-order. The loop over pending modules gives what the
recursion over the outline gives; and by the addresses of the scopes there is one summary for each, in
document order, with what the scope declares itself. -/
namespace RustOutline
open ModuleSummary (pathText weight weights)

mutual
/-- The summary of a module that the names lead to, and then those of its submodules. -/
def Item.summaries (segments : List String) : Item → List ModuleSummary
  | ⟨name, _, _, _, span, .inlineModule items references⟩ =>
    { path := pathText segments, name, items := items.filter (!·.isModule), references,
      span := some span } :: Item.summariesAll segments items
  | _ => []

def Item.summariesAll (segments : List String) : List Item → List ModuleSummary
  | [] => []
  | item :: rest =>
    Item.summaries (segments ++ [item.name]) item ++ Item.summariesAll segments rest
end

/-- A scope is reached through modules: their places among the items of their scopes make up its
address, and the modules themselves its trail, both from the outside in. -/
inductive Scope.Leads : Scope → List Nat → List Item → Scope → Prop
  | here (file : Scope) : Leads file [] [] file
  | into {file inner scope : Scope} {i : Nat} {item : Item} {address : List Nat} {trail : List Item}
      (place : file.items[i]? = some item) (nested : item.inner? = some inner)
      (rest : Leads inner address trail scope) : Leads file (i :: address) (item :: trail) scope

/-- The summary tells of the scope behind a trail: under the names on the way, with the name and the
span of the last module, with all references and all items but modules, in their order. -/
structure ModuleSummary.TellsOf (m : ModuleSummary) (trail : List Item) (scope : Scope) : Prop where
  path : m.path = "::".intercalate (trail.map Item.name)
  name : m.name = (trail.getLast?.map Item.name).getD ""
  span : m.span = trail.getLast?.map Item.span
  items : ∃ places, Drawn scope.items (fun item => item.isModule = false) Eq places m.items
  references : m.references = scope.references

/-- One summary for each scope. Addresses are compared place by place and come before their
continuations, so a module precedes its submodules and neighbours keep their order. -/
structure ModuleSummary.ListScopes (file : Scope) (addresses : List (List Nat))
    (ms : List ModuleSummary) : Prop where
  ordered : addresses.Pairwise (· < ·)
  complete : ∀ address, address ∈ addresses ↔ ∃ trail scope, file.Leads address trail scope
  told : List.Forall₂ (fun address m =>
    ∃ trail scope, file.Leads address trail scope ∧ m.TellsOf trail scope) addresses ms

/-- A scope with its address and its trail. -/
structure Located where
  address : List Nat
  trail : List Item
  scope : Scope

def Located.under (i : Nat) (item : Item) (l : Located) : Located :=
  ⟨i :: l.address, item :: l.trail, l.scope⟩

mutual
/-- The scopes in an item at a place of its scope: its own, and then those inside. -/
def Item.located (i : Nat) : Item → List Located
  | ⟨name, rawText, doc, visibility, span, .inlineModule items references⟩ =>
    (⟨[], [], ⟨items, references⟩⟩ :: Item.locatedFrom 0 items).map
      (.under i ⟨name, rawText, doc, visibility, span, .inlineModule items references⟩)
  | _ => []

def Item.locatedFrom (i : Nat) : List Item → List Located
  | [] => []
  | item :: rest => Item.located i item ++ Item.locatedFrom (i + 1) rest
end

/-- All scopes of a file in pre-order. -/
def Scope.located (file : Scope) : List Located := ⟨[], [], file⟩ :: Item.locatedFrom 0 file.items

/-- The modules among the items of a scope, each with its place and the scope inside. -/
def Scope.modules (scope : Scope) : List (Nat × Item × Scope) :=
  scope.items.zipIdx.filterMap fun p => p.1.inner?.map (p.2, p.1, ·)

/-- What is to be told of a scope below the given names. -/
def Located.summary (outer : List String) (l : Located) : ModuleSummary where
  path := pathText (outer ++ l.trail.map Item.name)
  name := (l.trail.getLast?.map Item.name).getD ""
  items := l.scope.items.filter (!·.isModule)
  references := l.scope.references
  span := l.trail.getLast?.map Item.span

theorem weight_le_weights {item : Item} {items : List Item} (h : item ∈ items) :
    weight item ≤ weights items := by
  induction items with
  | nil => cases h
  | cons first rest ih =>
    rw [weights]
    rcases List.mem_cons.mp h with rfl | h
    · omega
    · have := ih h
      omega

/-- Induction along module nesting: the scopes inside the modules of a scope come before it. -/
theorem Scope.nestingInduction {P : Scope → Prop}
    (step : ∀ scope, (∀ item ∈ scope.items, ∀ inner, item.inner? = some inner → P inner) → P scope)
    (scope : Scope) : P scope :=
  step scope fun _ _ inner _ => nestingInduction step inner
termination_by weights scope.items
decreasing_by
  rename_i item mem nested
  have hle := weight_le_weights mem
  have hinner := ModuleSummary.weight_of_inner nested
  omega

section Recursion
variable {item : Item} {inner : Scope} {segments : List String}

theorem Item.summaries_of_inner (h : item.inner? = some inner) :
    item.summaries segments =
      .ofModule segments item inner :: Item.summariesAll segments inner.items := by
  obtain ⟨name, rawText, doc, visibility, span, details⟩ := item
  cases details with
  | inlineModule items references =>
    obtain rfl := Option.some.inj h
    rw [summaries]
    rfl
  | function | dataType | trait | other => cases h

theorem Item.summaries_of_not_module (h : item.inner? = none) : item.summaries segments = [] := by
  obtain ⟨name, rawText, doc, visibility, span, details⟩ := item
  cases details with
  | inlineModule items references => cases h
  | function | dataType | trait | other => rw [summaries]; simp

theorem ModuleSummary.flatMap_pending (segments : List String) (items : List Item) :
    (pending segments items).flatMap (fun p => p.2.summaries p.1) =
      Item.summariesAll segments items := by
  induction items with
  | nil => rw [Item.summariesAll]; rfl
  | cons item rest ih =>
    rw [Item.summariesAll, ← ih, pending, pending, List.filter_cons]
    cases h : item.inner? with
    | none => simp [Item.isModule, h, Item.summaries_of_not_module h]
    | some inner => simp [Item.isModule, h]

/-- The loop takes pending modules one by one, but each with all its submodules. -/
theorem ModuleSummary.list_eq_flatMap (ps : List Pending) :
    list ps = ps.flatMap fun p => p.2.summaries p.1 := by
  fun_induction list ps with
  | case1 => rfl
  | case2 segments item rest nested ih =>
    rw [ih, List.flatMap_cons, Item.summaries_of_not_module nested, List.nil_append]
  | case3 segments item rest inner nested ih =>
    rw [ih, List.flatMap_append, flatMap_pending, List.flatMap_cons, Item.summaries_of_inner nested,
      List.cons_append]

theorem flattenModules_eq (file : Scope) :
    flattenModules file = .ofRoot file :: Item.summariesAll [] file.items := by
  rw [flattenModules, ModuleSummary.list_eq_flatMap, ModuleSummary.flatMap_pending]

end Recursion

section Addresses
variable {item : Item} {inner file : Scope} {l : Located}

theorem Scope.mem_modules {i : Nat} :
    (i, item, inner) ∈ file.modules ↔ file.items[i]? = some item ∧ item.inner? = some inner := by
  simp only [modules, List.mem_filterMap, Option.map_eq_some_iff, Prod.mk.injEq]
  constructor
  · rintro ⟨p, hp, scope, nested, rfl, rfl, rfl⟩
    exact ⟨List.mem_zipIdx_iff_getElem?.mp hp, nested⟩
  · rintro ⟨place, nested⟩
    exact ⟨(item, i), List.mem_zipIdx_iff_getElem?.mpr place, inner, nested, rfl, rfl, rfl⟩

theorem Scope.modules_ordered (file : Scope) : file.modules.Pairwise fun p q => p.1 < q.1 := by
  have hplaces : file.items.zipIdx.Pairwise fun p q => p.2 < q.2 := by
    rw [← List.pairwise_map (R := (· < ·)), List.zipIdx_map_snd]
    exact List.pairwise_lt_range' 1
  refine List.pairwise_filterMap.mpr (hplaces.imp fun hlt p hp q hq => ?_)
  obtain ⟨_, _, rfl⟩ := Option.map_eq_some_iff.mp hp
  obtain ⟨_, _, rfl⟩ := Option.map_eq_some_iff.mp hq
  exact hlt

theorem Item.located_of_inner (h : item.inner? = some inner) (i : Nat) :
    item.located i = inner.located.map (.under i item) := by
  obtain ⟨name, rawText, doc, visibility, span, details⟩ := item
  cases details with
  | inlineModule items references =>
    obtain rfl := Option.some.inj h
    rw [located]
    rfl
  | function | dataType | trait | other => cases h

theorem Item.located_of_not_module (h : item.inner? = none) (i : Nat) : item.located i = [] := by
  obtain ⟨name, rawText, doc, visibility, span, details⟩ := item
  cases details with
  | inlineModule items references => cases h
  | function | dataType | trait | other => rw [located]; simp

/-- What a recursion collects over the items of a scope, if other items give nothing, it collects over
the modules. -/
theorem Scope.collected_eq {α : Type} (all : Nat → List Item → List α) (one : Nat → Item → List α)
    (nil : ∀ i, all i [] = [])
    (cons : ∀ i item rest, all i (item :: rest) = one i item ++ all (i + 1) rest)
    (other : ∀ i item, item.inner? = none → one i item = []) (file : Scope) :
    all 0 file.items = file.modules.flatMap fun p => one p.1 p.2.1 := by
  -- the place of the first item grows with every step, so it varies in the induction
  have run (items : List Item) (i : Nat) : all i items =
      ((items.zipIdx i).filterMap fun p => p.1.inner?.map (p.2, p.1, ·)).flatMap
        fun p => one p.1 p.2.1 := by
    induction items generalizing i with
    | nil => exact nil i
    | cons item rest ih =>
      rw [cons, ih, List.zipIdx_cons, List.filterMap_cons]
      cases nested : item.inner? with
      | none => rw [other i item nested]; rfl
      | some inner => rfl
  exact run file.items 0

theorem Scope.located_eq (file : Scope) :
    file.located = ⟨[], [], file⟩ ::
      file.modules.flatMap fun p => p.2.2.located.map (.under p.1 p.2.1) := by
  have hall : Item.locatedFrom 0 file.items = file.modules.flatMap fun p => p.2.1.located p.1 := by
    refine collected_eq Item.locatedFrom (fun i item => item.located i)
      (fun i => ?_) (fun i item rest => ?_) (fun i item h => ?_) file
    · rw [Item.locatedFrom]
    · rw [Item.locatedFrom]
    · exact Item.located_of_not_module h i
  rw [located, hall]
  refine congrArg (List.cons _) (List.flatMap_congr ?_)
  rintro ⟨i, item, inner⟩ hmodule
  exact Item.located_of_inner (mem_modules.mp hmodule).2 i

theorem Scope.mem_located : l ∈ file.located ↔ file.Leads l.address l.trail l.scope := by
  induction file using nestingInduction generalizing l with
  | step file ih =>
    rw [located_eq, List.mem_cons, List.mem_flatMap]
    constructor
    · rintro (rfl | ⟨⟨i, item, inner⟩, hmodule, h⟩)
      · exact .here file
      · obtain ⟨k, hk, rfl⟩ := List.mem_map.mp h
        obtain ⟨place, nested⟩ := mem_modules.mp hmodule
        exact .into place nested ((ih item (List.mem_of_getElem? place) inner nested).mp hk)
    · obtain ⟨address, trail, scope⟩ := l
      intro h
      cases h with
      | here => exact .inl rfl
      | @into _ inner _ i item address trail place nested rest =>
        have hk := (ih item (List.mem_of_getElem? place) inner nested (l := ⟨address, trail, scope⟩)).mpr
          rest
        exact .inr ⟨(i, item, inner), mem_modules.mpr ⟨place, nested⟩, List.mem_map_of_mem hk⟩

theorem Scope.located_ordered (file : Scope) :
    file.located.Pairwise fun k l => k.address < l.address := by
  induction file using nestingInduction with
  | step file ih =>
    rw [located_eq]
    refine List.pairwise_cons.mpr ⟨fun l hl => ?_, List.pairwise_flatMap.mpr ⟨?_, ?_⟩⟩
    · obtain ⟨p, _, hl⟩ := List.mem_flatMap.mp hl
      obtain ⟨k, _, rfl⟩ := List.mem_map.mp hl
      exact List.nil_lt_cons _ _
    · rintro ⟨i, item, inner⟩ hmodule
      obtain ⟨place, nested⟩ := mem_modules.mp hmodule
      refine List.pairwise_map.mpr
        ((ih item (List.mem_of_getElem? place) inner nested).imp fun hlt => ?_)
      exact List.cons_lt_cons_iff.mpr (.inr ⟨rfl, hlt⟩)
    · refine file.modules_ordered.imp fun hlt k hk l hl => ?_
      obtain ⟨k', _, rfl⟩ := List.mem_map.mp hk
      obtain ⟨l', _, rfl⟩ := List.mem_map.mp hl
      exact List.cons_lt_cons_iff.mpr (.inl hlt)

theorem Item.summariesAll_eq (outer : List String) (file : Scope) :
    Item.summariesAll outer file.items =
      file.modules.flatMap fun p => p.2.1.summaries (outer ++ [p.2.1.name]) := by
  refine Scope.collected_eq (fun _ => Item.summariesAll outer)
    (fun _ item => item.summaries (outer ++ [item.name]))
    (fun _ => ?_) (fun _ item rest => ?_) (fun _ item h => summaries_of_not_module h) file
  · rw [summariesAll]
  · rw [summariesAll]

theorem Located.summary_under {outer : List String} (i : Nat) (h : l.trail ≠ []) :
    (l.under i item).summary outer = l.summary (outer ++ [item.name]) := by
  obtain ⟨last, hlast⟩ := Option.ne_none_iff_exists'.mp (mt List.getLast?_eq_none_iff.mp h)
  simp [summary, under, List.getLast?_cons, hlast]

/-- The recursion tells of the scopes in their order. -/
theorem Scope.map_summary_located (file : Scope) (outer : List String) :
    (file.modules.flatMap fun p => p.2.2.located.map (.under p.1 p.2.1)).map (Located.summary outer) =
      Item.summariesAll outer file.items := by
  induction file using nestingInduction generalizing outer with
  | step file ih =>
    rw [List.map_flatMap, Item.summariesAll_eq]
    refine List.flatMap_congr ?_
    rintro ⟨i, item, inner⟩ hmodule
    obtain ⟨place, nested⟩ := mem_modules.mp hmodule
    rw [Item.summaries_of_inner nested, ← ih item (List.mem_of_getElem? place) inner nested,
      located_eq, List.map_cons, List.map_cons, List.map_map]
    refine congrArg (List.cons _) (List.map_congr_left fun l hl => Located.summary_under i ?_)
    obtain ⟨p, _, hl⟩ := List.mem_flatMap.mp hl
    obtain ⟨k, _, rfl⟩ := List.mem_map.mp hl
    exact List.cons_ne_nil _ _

theorem flattenModules_eq_map (file : Scope) :
    flattenModules file = file.located.map (Located.summary []) := by
  rw [flattenModules_eq, Scope.located_eq, List.map_cons, file.map_summary_located]
  rfl

end Addresses

theorem Drawn.ofFilter {α : Type} (p : α → Bool) (xs : List α) :
    ∃ places, Drawn xs (fun x => p x = true) Eq places (xs.filter p) := by
  rw [← List.filterMap_eq_filter]
  apply Drawn.ofFilterMap
  intro x
  cases h : p x with
  | true => exact .inr ⟨rfl, x, rfl, by simp [Option.guard, h]⟩
  | false => exact .inl ⟨by simp, by simp [Option.guard, h]⟩

theorem Located.tellsOf_summary (l : Located) : (l.summary []).TellsOf l.trail l.scope where
  path := rfl
  name := rfl
  span := rfl
  items := by simpa [summary] using Drawn.ofFilter (fun item => !item.isModule) l.scope.items
  references := rfl

/-- The flat view is the pre-order of the modules: the crate root, and then each module with all its
submodules after it. So there is one summary for each scope of the file, at any depth, in document
order; and what a scope declares itself, and no more, stands in its own summary, in its order. -/
theorem flattenModules_is_preorder (file : Scope) :
    flattenModules file = .ofRoot file :: Item.summariesAll [] file.items ∧
      ∃ addresses, ModuleSummary.ListScopes file addresses (flattenModules file) := by
  refine ⟨flattenModules_eq file, file.located.map Located.address, ?_, fun address => ?_, ?_⟩
  · exact List.pairwise_map.mpr file.located_ordered
  · rw [List.mem_map]
    constructor
    · rintro ⟨l, hl, rfl⟩
      exact ⟨l.trail, l.scope, Scope.mem_located.mp hl⟩
    · rintro ⟨trail, scope, h⟩
      exact ⟨⟨address, trail, scope⟩, Scope.mem_located.mpr h, rfl⟩
  · rw [flattenModules_eq_map, List.forall₂_map_left_iff, List.forall₂_map_right_iff, List.forall₂_same]
    exact fun l hl => ⟨l.trail, l.scope, Scope.mem_located.mp hl, l.tellsOf_summary⟩

end RustOutline
