import RustOutline.Proofs.ScopeMembers

/-! What one member adds to its scope: nothing, one item or one reference, and which of the three.
The scopes of a file are those of its root and of the modules that are kept. -/
namespace RustOutline

/-- The kinds of node that declare something other than a module. -/
def formKinds : List String := [
  "function_item", "function_signature_item", "struct_item", "enum_item", "union_item",
  "trait_item", "impl_item", "use_declaration", "const_item", "static_item", "type_item",
  "macro_definition", "extern_crate_declaration"]

/-- The role of the child that a declaration takes its name from. -/
def nameRole (kind : String) : String :=
  if kind = "impl_item" then "type" else if kind = "use_declaration" then "argument" else "name"

/-- A module whose content stands elsewhere. -/
def Node.IsFileModule (n : Node) : Prop := n.kind = "mod_item" ∧ n.child? "body" = none

namespace Form

theorem ofKind?_module : ofKind? "mod_item" = none := rfl

theorem isSome_ofKind?_iff (kind : String) : (ofKind? kind).isSome ↔ kind ∈ formKinds := by
  constructor
  · intro h
    unfold ofKind? at h
    split at h <;> simp_all [formKinds]
  · intro h
    simp only [formKinds, List.mem_cons, List.not_mem_nil, or_false] at h
    rcases h with rfl | rfl | rfl | rfl | rfl | rfl | rfl | rfl | rfl | rfl | rfl | rfl | rfl <;> rfl

/-- A block is listed as soon as its type has a text; the trait only adds to the name. -/
theorem isSome_implName? (source : Utf8.Bytes) (n : Node) :
    (n.implName? source).isSome = (n.fieldText? source "type").isSome := by
  unfold Node.implName?
  cases n.fieldText? source "type" with
  | none => rfl
  | some type => cases n.fieldText? source "trait" <;> rfl

theorem kind_eq_of_impl {kind : String} (h : ofKind? kind = some (.other .impl)) :
    kind = "impl_item" := by
  unfold ofKind? at h
  split at h <;> simp_all

theorem kind_eq_of_useDecl {kind : String} (h : ofKind? kind = some (.other .useDecl)) :
    kind = "use_declaration" := by
  unfold ofKind? at h
  split at h <;> simp_all

theorem isSome_name? (source : Utf8.Bytes) {n : Node} {form : Form}
    (h : ofKind? n.kind = some form) :
    (form.name? source n).isSome = (n.fieldText? source (nameRole n.kind)).isSome := by
  unfold name?
  split
  · rw [kind_eq_of_impl h, isSome_implName?]
    rfl
  · rw [kind_eq_of_useDecl h]
    rfl
  · next himpl huse =>
    have hi : n.kind ≠ "impl_item" := by
      intro hk
      rw [hk, show ofKind? "impl_item" = some (.other .impl) from rfl] at h
      exact himpl (Option.some.inj h).symm
    have hu : n.kind ≠ "use_declaration" := by
      intro hk
      rw [hk, show ofKind? "use_declaration" = some (.other .useDecl) from rfl] at h
      exact huse (Option.some.inj h).symm
    rw [nameRole, if_neg hi, if_neg hu]

end Form

/-- A block takes the named functions from its body that the inclusion policy keeps. -/
theorem implMethod?_eq_some {source : Utf8.Bytes} {includePrivate : Bool} {f : Site}
    {method : Item} :
    implMethod? source includePrivate f = some method ↔
      f.node.kind = "function_item" ∧
        (Visibility.ofNode source f.node).included includePrivate = true ∧
        ∃ name, f.node.fieldText? source "name" = some name ∧
          method = f.item source name (.function (f.node.signature source)) := by
  unfold implMethod?
  by_cases hk : f.node.kind = "function_item"
  · have hdeclaration : f.declaration? source = (f.node.fieldText? source "name").map fun name =>
        f.item source name (.function (f.node.signature source)) := by
      unfold Site.declaration?
      rw [hk]
      rfl
    simp only [hk, beq_self_eq_true, Bool.true_and, hdeclaration, Option.ite_none_right_eq_some,
      Option.map_eq_some_iff, true_and]
    exact and_congr_right fun _ => exists_congr fun name => and_congr_right fun _ => eq_comm
  · simp [hk]

/-- A method of a data type was found in the body of an impl node with a type text. -/
theorem exists_implMethod_of_methodsFor {source : Utf8.Bytes} {includePrivate : Bool} {root : Node}
    {name : String} {method : Item}
    (h : method ∈ (ImplIndex.build source includePrivate root).methodsFor name) :
    ∃ n ∈ root.reach, n.kind = "impl_item" ∧ (n.fieldText? source "type").isSome ∧
      method ∈ n.implMethods source includePrivate := by
  obtain ⟨block, hblock, hm⟩ := List.mem_flatMap.mp h
  obtain ⟨n, hn, hof⟩ := ImplIndex.mem_blocks_build.mp (List.mem_filter.mp hblock).1
  unfold Node.implBlock? at hof
  split at hof
  · next hk =>
    obtain ⟨_, htype, rfl⟩ := Option.map_eq_some_iff.mp hof
    exact ⟨n, hn, by simpa using hk, Option.isSome_of_eq_some htype, hm⟩
  · cases hof

namespace FileContext
variable (ctx : FileContext) (enclosing : List String)

/-- The members that show in the outline: declarations with a usable name that the inclusion policy
keeps, except blocks whose methods went to a data type. -/
structure Keeps (s : Site) : Prop where
  kind : s.node.kind = "mod_item" ∨ s.node.kind ∈ formKinds
  named : (s.node.fieldText? ctx.source (nameRole s.node.kind)).isSome
  included : (Visibility.ofNode ctx.source s.node).included ctx.includePrivate
  loose : ¬ (s.node.kind = "impl_item" ∧ ctx.impls.isAttached s.node)

/-- The item that a member becomes. A module holds the scope of its body, a data type the methods of
the blocks that mention it; of any other declaration its node says it all. -/
inductive ItemOf (s : Site) : Item → Prop
  | inlineModule {name : String} {body : Node} (kind : s.node.kind = "mod_item")
      (named : s.node.fieldText? ctx.source "name" = some name)
      (inner : s.node.child? "body" = some body) :
      ItemOf s (s.item ctx.source name (.inlineModule
        (ctx.assembleInside (enclosing ++ [name]) body).items
        (ctx.assembleInside (enclosing ++ [name]) body).references))
  | dataType {kind : DataKind} {name : String}
      (form : Form.ofKind? s.node.kind = some (.dataType kind))
      (named : s.node.fieldText? ctx.source "name" = some name) :
      ItemOf s (s.item ctx.source name (.dataType kind (ctx.impls.methodsFor name)))
  | plain {form : Form} {name : String} (kind : Form.ofKind? s.node.kind = some form)
      (rest : ∀ data, form ≠ .dataType data) (named : form.name? ctx.source s.node = some name) :
      ItemOf s (s.item ctx.source name (form.details ctx.source s.node))

/-- The reference that a member becomes. -/
inductive ReferenceOf (s : Site) : ModuleReference → Prop
  | fileModule {name : String} (named : s.node.fieldText? ctx.source "name" = some name) :
      ReferenceOf s
        { name, visibility := Visibility.ofNode ctx.source s.node,
          expectedPaths := expectedModulePaths enclosing name, span := s.node.span }

theorem ItemOf.fields {ctx : FileContext} {enclosing : List String} {s : Site} {item : Item}
    (h : ctx.ItemOf enclosing s item) :
    item.rawText = s.node.text ctx.source ∧ item.doc = DocComment.ofSite ctx.source s ∧
      item.visibility = Visibility.ofNode ctx.source s.node ∧ item.span = s.node.span := by
  cases h <;> exact ⟨rfl, rfl, rfl, rfl⟩

/-- A module is kept for its name and its visibility alone. -/
theorem keeps_module {s : Site} (hm : s.node.kind = "mod_item") :
    ctx.Keeps s ↔ (s.node.fieldText? ctx.source "name").isSome ∧
      (Visibility.ofNode ctx.source s.node).included ctx.includePrivate := by
  have hrole : nameRole s.node.kind = "name" := by rw [hm]; decide
  constructor
  · intro h
    exact ⟨hrole ▸ h.named, h.included⟩
  · rintro ⟨named, included⟩
    exact ⟨.inl hm, by rw [hrole]; exact named, included, by simp [hm]⟩

/-- Everything that a declaration other than a module can add. -/
theorem declare_cases (s : Site) (hm : s.node.kind ≠ "mod_item") :
    (¬ ctx.Keeps s ∧ ctx.declare s = .empty) ∨
      (ctx.Keeps s ∧ ∃ item, ctx.ItemOf enclosing s item ∧ ctx.declare s = .ofItem item) := by
  unfold declare
  split
  · next h =>
    simp only [Bool.and_eq_true, beq_iff_eq] at h
    exact .inl ⟨fun k => k.loose h, rfl⟩
  · next hloose =>
    split
    · next h => exact .inl ⟨fun k => by simp [k.included] at h, rfl⟩
    · next hincluded =>
      cases hf : Form.ofKind? s.node.kind with
      | none =>
        refine .inl ⟨fun k => ?_, by simp [Site.declaration?, hf]⟩
        have := (Form.isSome_ofKind?_iff _).mpr (k.kind.resolve_left hm)
        simp [hf] at this
      | some form =>
        have hkind := (Form.isSome_ofKind?_iff s.node.kind).mp (by simp [hf])
        have hsome := Form.isSome_name? ctx.source hf
        cases hn : form.name? ctx.source s.node with
        | none =>
          refine .inl ⟨fun k => ?_, by simp [Site.declaration?, hf, hn]⟩
          have := k.named
          simp [← hsome, hn] at this
        | some name =>
          have keeps : ctx.Keeps s := {
            kind := .inr hkind
            named := by simp [← hsome, hn]
            included := by simpa using hincluded
            loose := by simpa using hloose }
          have hd : s.declaration? ctx.source =
              some (s.item ctx.source name (form.details ctx.source s.node)) := by
            simp [Site.declaration?, hf, hn]
          refine .inr ⟨keeps, ?_⟩
          rw [hd]
          cases form with
          | dataType data => exact ⟨_, .dataType hf hn, rfl⟩
          | function => exact ⟨_, .plain hf (by simp) hn, rfl⟩
          | trait => exact ⟨_, .plain hf (by simp) hn, rfl⟩
          | other kind => exact ⟨_, .plain hf (by simp) hn, rfl⟩

/-- Everything that a module can add, given that it is one. -/
theorem declareModule_cases (s : Site) (hm : s.node.kind = "mod_item") :
    (¬ ctx.Keeps s ∧ ctx.contribution enclosing s = .empty) ∨
      (ctx.Keeps s ∧ s.node.child? "body" = none ∧
        ∃ r, ctx.ReferenceOf enclosing s r ∧ ctx.contribution enclosing s = .ofReference r) ∨
      (ctx.Keeps s ∧ s.node.child? "body" ≠ none ∧
        ∃ item, ctx.ItemOf enclosing s item ∧ ctx.contribution enclosing s = .ofItem item) := by
  rw [ctx.keeps_module hm]
  simp only [contribution, hm, beq_self_eq_true, if_true]
  cases hn : s.node.fieldText? ctx.source "name" with
  | none => exact .inl ⟨by simp, rfl⟩
  | some name =>
    simp only [declareModule]
    split
    · next h => exact .inl ⟨by simpa using h, rfl⟩
    · next h =>
      have keeps : (some name).isSome ∧
          (Visibility.ofNode ctx.source s.node).included ctx.includePrivate := by simpa using h
      cases hb : s.node.child? "body" with
      | none => exact .inr (.inl ⟨keeps, rfl, _, .fileModule hn, rfl⟩)
      | some body => exact .inr (.inr ⟨keeps, by simp, _, .inlineModule hm hn hb, rfl⟩)

/-- A member adds nothing, or its reference, or its item. -/
theorem contribution_cases (s : Site) :
    (¬ ctx.Keeps s ∧ ctx.contribution enclosing s = .empty) ∨
      (ctx.Keeps s ∧ s.node.IsFileModule ∧
        ∃ r, ctx.ReferenceOf enclosing s r ∧ ctx.contribution enclosing s = .ofReference r) ∨
      (ctx.Keeps s ∧ ¬ s.node.IsFileModule ∧
        ∃ item, ctx.ItemOf enclosing s item ∧ ctx.contribution enclosing s = .ofItem item) := by
  by_cases hm : s.node.kind = "mod_item"
  · obtain h | ⟨hk, hb, h⟩ | ⟨hk, hb, h⟩ := ctx.declareModule_cases enclosing s hm
    · exact .inl h
    · exact .inr (.inl ⟨hk, ⟨hm, hb⟩, h⟩)
    · exact .inr (.inr ⟨hk, fun hf => hb hf.2, h⟩)
  · have hdeclare : ctx.contribution enclosing s = ctx.declare s := by simp [contribution, hm]
    rw [hdeclare]
    obtain h | ⟨hk, h⟩ := ctx.declare_cases enclosing s hm
    · exact .inl h
    · exact .inr (.inr ⟨hk, fun hf => hm hf.1, h⟩)

section Membership
variable {ctx enclosing} {s : Site} {item other : Item}

theorem ItemOf.not_isFileModule (h : ctx.ItemOf enclosing s item) : ¬ s.node.IsFileModule := by
  rintro ⟨hm, hb⟩
  cases h with
  | inlineModule _ _ inner => simp [hb] at inner
  | dataType form _ => simp [hm, Form.ofKind?_module] at form
  | plain kind _ _ => simp [hm, Form.ofKind?_module] at kind

theorem ItemOf.methods_eq {kind : DataKind} {methods : List Item} (h : ctx.ItemOf enclosing s item)
    (hd : item.details = .dataType kind methods) : methods = ctx.impls.methodsFor item.name := by
  cases h with
  | inlineModule _ _ _ => cases hd
  | dataType _ _ => exact (Details.dataType.inj hd).2.symm
  | @plain form _ _ rest _ =>
    cases form with
    | dataType data => exact absurd rfl (rest data)
    | function | trait | other => cases hd

theorem ItemOf.signature_eq {signature : String} (h : ctx.ItemOf enclosing s item)
    (hd : item.details = .function signature) : signature = s.node.signature ctx.source := by
  cases h with
  | inlineModule _ _ _ => cases hd
  | dataType _ _ => cases hd
  | @plain form _ _ _ _ =>
    cases form with
    | function => exact (Details.function.inj hd).symm
    | trait | dataType | other => cases hd

theorem ItemOf.traitMethods_eq {methods : List TraitMethod} (h : ctx.ItemOf enclosing s item)
    (hd : item.details = .trait methods) : methods = s.node.traitMethods ctx.source := by
  cases h with
  | inlineModule _ _ _ => cases hd
  | dataType _ _ => cases hd
  | @plain form _ _ _ _ =>
    cases form with
    | trait => exact (Details.trait.inj hd).symm
    | function | dataType | other => cases hd

theorem ItemOf.unique (h : ctx.ItemOf enclosing s item) (h' : ctx.ItemOf enclosing s other) :
    item = other := by
  cases h with
  | inlineModule hm hn hb =>
    cases h' with
    | inlineModule _ hn' hb' => simp_all
    | dataType form _ => simp [hm, Form.ofKind?_module] at form
    | plain kind _ _ => simp [hm, Form.ofKind?_module] at kind
  | dataType form hn =>
    cases h' with
    | inlineModule hm _ _ => simp [hm, Form.ofKind?_module] at form
    | dataType _ hn' => simp_all
    | plain kind rest _ => exact absurd (Option.some.inj (kind.symm.trans form)) (rest _)
  | plain kind rest hn =>
    cases h' with
    | inlineModule hm _ _ => simp [hm, Form.ofKind?_module] at kind
    | dataType form _ => exact absurd (Option.some.inj (kind.symm.trans form)) (rest _)
    | plain kind' _ hn' =>
      obtain rfl := Option.some.inj (kind.symm.trans kind')
      simp_all

theorem ReferenceOf.unique {r r' : ModuleReference} (h : ctx.ReferenceOf enclosing s r)
    (h' : ctx.ReferenceOf enclosing s r') : r = r' := by
  cases h with
  | fileModule hn =>
    cases h' with
    | fileModule hn' => simp_all

theorem contribution_of_itemOf (hk : ctx.Keeps s) (h : ctx.ItemOf enclosing s item) :
    ctx.contribution enclosing s = .ofItem item := by
  obtain ⟨hn, _⟩ | ⟨_, hf, _⟩ | ⟨_, _, item', h', hc⟩ := ctx.contribution_cases enclosing s
  · exact absurd hk hn
  · exact absurd hf h.not_isFileModule
  · rw [hc, h'.unique h]

theorem contribution_of_referenceOf {r : ModuleReference} (hk : ctx.Keeps s)
    (hf : s.node.IsFileModule) (h : ctx.ReferenceOf enclosing s r) :
    ctx.contribution enclosing s = .ofReference r := by
  obtain ⟨hn, _⟩ | ⟨_, _, r', h', hc⟩ | ⟨_, hf', _⟩ := ctx.contribution_cases enclosing s
  · exact absurd hk hn
  · rw [hc, h'.unique h]
  · exact absurd hf hf'

theorem contribution_of_not_keeps (hk : ¬ ctx.Keeps s) : ctx.contribution enclosing s = .empty := by
  obtain ⟨_, hc⟩ | ⟨hk', _⟩ | ⟨hk', _⟩ := ctx.contribution_cases enclosing s
  · exact hc
  · exact absurd hk' hk
  · exact absurd hk' hk

theorem mem_items {n : Node} :
    item ∈ (ctx.assembleInside enclosing n).items ↔
      ∃ s ∈ Site.members n, ctx.Keeps s ∧ ctx.ItemOf enclosing s item := by
  rw [assembleInside_items, List.mem_flatMap]
  refine exists_congr fun s => and_congr_right fun _ => ⟨fun h => ?_, fun ⟨hk, hi⟩ => ?_⟩
  · obtain ⟨_, hc⟩ | ⟨_, _, r, _, hc⟩ | ⟨hk, _, item', hi, hc⟩ := ctx.contribution_cases enclosing s
    · simp [hc] at h
    · simp [hc] at h
    · obtain rfl : item = item' := by simpa [hc] using h
      exact ⟨hk, hi⟩
  · simp [contribution_of_itemOf hk hi]

theorem mem_references {n : Node} {r : ModuleReference} :
    r ∈ (ctx.assembleInside enclosing n).references ↔
      ∃ s ∈ Site.members n, ctx.Keeps s ∧ s.node.IsFileModule ∧ ctx.ReferenceOf enclosing s r := by
  rw [assembleInside_references, List.mem_flatMap]
  refine exists_congr fun s => and_congr_right fun _ => ⟨fun h => ?_, fun ⟨hk, hf, hr⟩ => ?_⟩
  · obtain ⟨_, hc⟩ | ⟨hk, hf, r', hr, hc⟩ | ⟨_, _, item, _, hc⟩ := ctx.contribution_cases enclosing s
    · simp [hc] at h
    · obtain rfl : r = r' := by simpa [hc] using h
      exact ⟨hk, hf, hr⟩
    · simp [hc] at h
  · simp [contribution_of_referenceOf hk hf hr]

end Membership
end FileContext

/-- A scope that is another one or stands inside one of its modules, at any depth. -/
inductive Scope.Contains (file : Scope) : Scope → Prop
  | self : Contains file file
  | inner {scope inner : Scope} {item : Item} (outer : Contains file scope)
      (mem : item ∈ scope.items) (nested : item.inner? = some inner) : Contains file inner

/-- The scope inside the modules of these names, outermost first. Modules may share their names, so
the same names can lead to several scopes. -/
inductive Scope.At (file : Scope) : List String → Scope → Prop
  | self : At file [] file
  | inner {names : List String} {scope inner : Scope} {item : Item} (outer : At file names scope)
      (mem : item ∈ scope.items) (nested : item.inner? = some inner) :
      At file (names ++ [item.name]) inner

theorem Scope.Contains.exists_at {file scope : Scope} (h : file.Contains scope) :
    ∃ names, file.At names scope := by
  induction h with
  | self => exact ⟨[], .self⟩
  | inner _ mem nested ih =>
    obtain ⟨names, hnames⟩ := ih
    exact ⟨_, .inner hnames mem nested⟩

namespace FileContext
variable {ctx : FileContext} {root : Node}

/-- The scopes that assembly enters from a root, with the names of the modules around them. -/
inductive Enters (ctx : FileContext) (root : Node) : List String → Node → Prop
  | root : Enters ctx root [] root
  | body {enclosing : List String} {n : Node} {s : Site} {name : String} {body : Node}
      (outer : Enters ctx root enclosing n) (mem : s ∈ Site.members n) (keeps : ctx.Keeps s)
      (kind : s.node.kind = "mod_item") (named : s.node.fieldText? ctx.source "name" = some name)
      (inner : s.node.child? "body" = some body) : Enters ctx root (enclosing ++ [name]) body

theorem Enters.contains {enclosing : List String} {n : Node} (h : ctx.Enters root enclosing n) :
    (ctx.assembleInside [] root).Contains (ctx.assembleInside enclosing n) := by
  induction h with
  | root => exact .self
  | body _ mem keeps kind named inner ih =>
    exact .inner ih (mem_items.mpr ⟨_, mem, keeps, .inlineModule kind named inner⟩) rfl

/-- Every scope of the outline is that of a scope node that was entered, under the same names. -/
theorem exists_enters_of_at {names : List String} {scope : Scope}
    (h : (ctx.assembleInside [] root).At names scope) :
    ∃ n, ctx.Enters root names n ∧ scope = ctx.assembleInside names n := by
  induction h with
  | self => exact ⟨root, .root, rfl⟩
  | inner _ mem nested ih =>
    obtain ⟨n, hn, rfl⟩ := ih
    obtain ⟨s, hs, hk, hi⟩ := mem_items.mp mem
    cases hi with
    | @inlineModule name body kind named hb =>
      exact ⟨body, .body hn hs hk kind named hb, (Option.some.inj nested).symm⟩
    | dataType _ _ => simp [Item.inner?, Site.item] at nested
    | @plain form _ _ rest _ => cases form <;> simp [Item.inner?, Site.item, Form.details] at nested

theorem exists_enters_of_contains {scope : Scope} (h : (ctx.assembleInside [] root).Contains scope) :
    ∃ enclosing n, ctx.Enters root enclosing n ∧ scope = ctx.assembleInside enclosing n := by
  obtain ⟨names, hat⟩ := h.exists_at
  exact ⟨names, exists_enters_of_at hat⟩

end FileContext
end RustOutline
