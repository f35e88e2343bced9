import Mathlib.Data.List.Chain
import Mathlib.Data.List.Flatten
import RustOutline.Proofs.MemberContribution
import RustOutline.Proofs.RecoveryDiagnostics

/-! Spans nest and follow one another as the source does. A scope takes its spans from its members, a
trait and an impl block theirs from the children of their bodies, and diagnostics theirs from the
recoveries; all of these are laid out in order where the tree is. -/
namespace RustOutline

namespace Span

/-- The first one ends before the second one starts, or where it does. -/
def Before (a b : Span) : Prop := a.stop ≤ b.start

def Within (a b : Span) : Prop := b.start ≤ a.start ∧ a.stop ≤ b.stop

/-- Spans one after another between two offsets. -/
structure InOrder (lo hi : Nat) (spans : List Span) : Prop where
  ordered : spans.Pairwise Before
  bounded : ∀ s ∈ spans, lo ≤ s.start ∧ s.start ≤ s.stop ∧ s.stop ≤ hi

namespace InOrder
variable {lo hi : Nat} {spans : List Span}

theorem sublist {fewer : List Span} (h : InOrder lo hi spans) (hs : fewer.Sublist spans) :
    InOrder lo hi fewer where
  ordered := h.ordered.sublist hs
  bounded s hmem := h.bounded s (hs.subset hmem)

theorem within {outer : Span} {s : Span} (h : InOrder outer.start outer.stop spans)
    (hs : s ∈ spans) : s.Within outer :=
  ⟨(h.bounded s hs).1, (h.bounded s hs).2.2⟩

theorem nil : InOrder lo hi [] where
  ordered := .nil
  bounded := by simp

/-- What lies inside spans in order, in order each time, is in order throughout. -/
theorem flatMap {α : Type} {span : α → Span} {xs : List α} {inside : α → List Span}
    (h : InOrder lo hi (xs.map span))
    (hinside : ∀ x ∈ xs, InOrder (span x).start (span x).stop (inside x)) :
    InOrder lo hi (xs.flatMap inside) where
  ordered := by
    refine List.pairwise_flatMap.mpr ⟨fun x hx => (hinside x hx).ordered, ?_⟩
    refine (List.pairwise_map.mp h.ordered).imp_of_mem fun {x y} hx hy hxy s hs t ht => ?_
    -- what is inside `x` ends with it at the latest, and what is inside `y` starts after that
    have hs := (hinside x hx).bounded s hs
    have ht := (hinside y hy).bounded t ht
    unfold Before at hxy ⊢
    omega
  bounded s hs := by
    obtain ⟨x, hx, hs⟩ := List.mem_flatMap.mp hs
    have houter := h.bounded (span x) (List.mem_map_of_mem hx)
    have hinner := (hinside x hx).bounded s hs
    omega

end InOrder
end Span

/-- A span that occurs in a response: of a declaration in any scope, of a method or of a
diagnostic. -/
inductive Response.HasSpan (r : Response) : Span → Prop
  | item {scope : Scope} {item : Item} (contains : r.file.Contains scope)
      (mem : item ∈ scope.items) : HasSpan r item.span
  | reference {scope : Scope} {reference : ModuleReference} (contains : r.file.Contains scope)
      (mem : reference ∈ scope.references) : HasSpan r reference.span
  | dataMethod {scope : Scope} {item method : Item} {kind : DataKind} {methods : List Item}
      (contains : r.file.Contains scope) (mem : item ∈ scope.items)
      (details : item.details = .dataType kind methods) (declared : method ∈ methods) :
      HasSpan r method.span
  | traitMethod {scope : Scope} {item : Item} {method : TraitMethod} {methods : List TraitMethod}
      (contains : r.file.Contains scope) (mem : item ∈ scope.items)
      (details : item.details = .trait methods) (declared : method ∈ methods) :
      HasSpan r method.span
  | diagnostic {d : Diagnostic} {span : Span} (mem : d ∈ r.diagnostics)
      (shown : d.span = some span) : HasSpan r span

/-- The spans of a response to a file of so many bytes. The bounds of the file hold for every span,
methods of data types included. -/
structure Response.SpansNest (length : Nat) (r : Response) : Prop where
  items : ∀ scope, r.file.Contains scope → (scope.items.map Item.span).Pairwise Span.Before
  references : ∀ scope, r.file.Contains scope →
    (scope.references.map ModuleReference.span).Pairwise Span.Before
  modules : ∀ scope, r.file.Contains scope → ∀ item ∈ scope.items, ∀ inner,
    item.inner? = some inner → (∀ i ∈ inner.items, i.span.Within item.span) ∧
      ∀ reference ∈ inner.references, reference.span.Within item.span
  traits : ∀ scope, r.file.Contains scope → ∀ item ∈ scope.items, ∀ methods,
    item.details = .trait methods → (methods.map TraitMethod.span).Pairwise Span.Before ∧
      ∀ method ∈ methods, method.span.Within item.span
  diagnostics : ∃ spans : List Span, r.diagnostics.map Diagnostic.span = spans.map some ∧
    spans.Pairwise Span.Before
  bounded : ∀ span, r.HasSpan span → span.start ≤ span.stop ∧ span.stop ≤ length

namespace Node

/-- The range runs forwards, the children lie inside it, and each ends before the next. -/
structure Aligned (n : Node) : Prop where
  forward : n.start ≤ n.stop
  inside : ∀ c ∈ n.children, n.start ≤ c.start ∧ c.stop ≤ n.stop
  siblings : n.children.IsChain fun a b => a.stop ≤ b.start

instance (n : Node) : Decidable n.Aligned :=
  decidable_of_iff (n.start ≤ n.stop ∧ (∀ c ∈ n.children, n.start ≤ c.start ∧ c.stop ≤ n.stop) ∧
      n.children.IsChain fun a b => a.stop ≤ b.start)
    ⟨fun h => ⟨h.1, h.2.1, h.2.2⟩, fun h => ⟨h.forward, h.inside, h.siblings⟩⟩

/-- All ranges of the tree are laid out as a parser lays them out. -/
def WellFormed (root : Node) : Prop := ∀ n ∈ root.preorder, n.Aligned

instance (root : Node) : Decidable root.WellFormed :=
  inferInstanceAs (Decidable (∀ n ∈ root.preorder, n.Aligned))

variable {n m d c : Node}

theorem mem_preorder_self (n : Node) : n ∈ n.preorder := by
  rw [preorder_eq]
  exact List.mem_cons_self

theorem mem_preorder_of_child (hc : c ∈ n.children) (hd : d ∈ c.preorder) : d ∈ n.preorder := by
  rw [preorder_eq]
  exact List.mem_cons_of_mem _ (List.mem_flatMap.mpr ⟨c, hc, hd⟩)

theorem mem_preorder_trans (hm : m ∈ n.preorder) (hd : d ∈ m.preorder) : d ∈ n.preorder := by
  induction n using treeInduction with
  | step n ih =>
    rw [preorder_eq] at hm
    rcases List.mem_cons.mp hm with rfl | hm
    · exact hd
    · obtain ⟨c, hc, hm⟩ := List.mem_flatMap.mp hm
      exact mem_preorder_of_child hc (ih c hc hm)

theorem mem_preorder_of_mem_reach (h : m ∈ n.reach) : m ∈ n.preorder := by
  induction n using treeInduction with
  | step n ih =>
    have run (cs : List Node) (hcs : ∀ c ∈ cs, c ∈ n.children) (hm : m ∈ reachAll cs) :
        m ∈ n.preorder := by
      induction cs with
      | nil => simp [reachAll] at hm
      | cons c cs ihs =>
        have rest := ihs fun d hd => hcs d (List.mem_cons_of_mem _ hd)
        have hc := hcs c List.mem_cons_self
        rw [reachAll] at hm
        split at hm
        · rcases List.mem_append.mp hm with hm | hm
          · exact mem_preorder_of_child hc (ih c hc hm)
          · exact rest hm
        · exact rest hm
    cases n with
    | mk k f nm ms e a b p q children =>
      rw [reach] at h
      rcases List.mem_cons.mp h with rfl | h
      · exact mem_preorder_self _
      · exact run children (fun _ h => h) h

/-- Where neighbours do not overlap no two siblings do, since ranges run forwards. -/
theorem pairwise_before_of_isChain {cs : List Node} (forward : ∀ c ∈ cs, c.start ≤ c.stop)
    (chain : cs.IsChain fun a b => a.stop ≤ b.start) : (cs.map span).Pairwise Span.Before := by
  induction cs with
  | nil => exact .nil
  | cons c cs ih =>
    have rest := ih (fun d hd => forward d (List.mem_cons_of_mem _ hd)) chain.tail
    refine List.pairwise_cons.mpr ⟨?_, rest⟩
    cases cs with
    | nil => simp
    | cons d ds =>
      have hd := forward d (by simp)
      have hcd : c.stop ≤ d.start := (List.isChain_cons_cons.mp chain).1
      intro s hs
      rcases List.mem_cons.mp hs with rfl | hs
      · exact hcd
      · have hds : d.stop ≤ s.start := (List.pairwise_cons.mp rest).1 s hs
        exact Nat.le_trans hcd (Nat.le_trans hd hds)

namespace WellFormed

theorem aligned (h : n.WellFormed) : n.Aligned := h n (mem_preorder_self n)

theorem descendant (h : n.WellFormed) (hm : m ∈ n.preorder) : m.WellFormed :=
  fun d hd => h d (mem_preorder_trans hm hd)

theorem child (h : n.WellFormed) (hc : c ∈ n.children) : c.WellFormed :=
  h.descendant (mem_preorder_of_child hc (mem_preorder_self c))

theorem bounds (h : n.WellFormed) (hm : m ∈ n.preorder) :
    n.start ≤ m.start ∧ m.stop ≤ n.stop := by
  induction n using treeInduction with
  | step n ih =>
    rw [preorder_eq] at hm
    rcases List.mem_cons.mp hm with rfl | hm
    · exact ⟨Nat.le_refl _, Nat.le_refl _⟩
    · obtain ⟨c, hc, hm⟩ := List.mem_flatMap.mp hm
      have hchild := h.aligned.inside c hc
      have hbelow := ih c hc (h.child hc) hm
      omega

/-- What is in order inside a node is so inside the root. -/
theorem inOrder_of_descendant {spans : List Span} (h : n.WellFormed) (hm : m ∈ n.preorder)
    (hs : Span.InOrder m.start m.stop spans) : Span.InOrder n.start n.stop spans where
  ordered := hs.ordered
  bounded s hmem := by
    have hnode := h.bounds hm
    have hspan := hs.bounded s hmem
    omega

theorem inOrder_of_child {spans : List Span} (h : n.WellFormed) (hc : c ∈ n.children)
    (hs : Span.InOrder c.start c.stop spans) : Span.InOrder n.start n.stop spans :=
  h.inOrder_of_descendant (mem_preorder_of_child hc (mem_preorder_self c)) hs

theorem self_inOrder (h : n.WellFormed) : Span.InOrder n.start n.stop [n.span] where
  ordered := List.pairwise_singleton _ _
  bounded s hs := by
    rw [List.mem_singleton.mp hs]
    exact ⟨Nat.le_refl _, h.aligned.forward, Nat.le_refl _⟩

theorem children_inOrder (h : n.WellFormed) : Span.InOrder n.start n.stop (n.children.map span) where
  ordered := pairwise_before_of_isChain (fun c hc => (h.child hc).aligned.forward) h.aligned.siblings
  bounded s hs := by
    obtain ⟨c, hc, rfl⟩ := List.mem_map.mp hs
    have hinside := h.aligned.inside c hc
    exact ⟨hinside.1, (h.child hc).aligned.forward, hinside.2⟩

end WellFormed
end Node

namespace Site

theorem map_node_children (n : Node) : (children n).map Site.node = n.children := by
  have run (underError : Bool) (before cs : List Node) :
      (ofSiblings underError before cs).map Site.node = cs := by
    induction cs generalizing before with
    | nil => rfl
    | cons c cs ih => rw [ofSiblings, List.map_cons, ih]
  exact run _ _ _

theorem namedChildren_sublist (n : Node) :
    ((namedChildren n).map (·.node.span)).Sublist (n.children.map Node.span) := by
  rw [← map_node_children n, List.map_map]
  exact List.filter_sublist.map _

theorem mem_preorder_of_mem_members {n : Node} {s : Site} (h : s ∈ members n) :
    s.node ∈ n.preorder := by
  induction n using Node.treeInduction with
  | step n ih =>
    obtain ⟨c, hc, ⟨_, hs⟩ | ⟨_, rfl⟩⟩ := mem_members.mp h
    · have hmem := mem_children_of_mem_namedChildren hc
      exact Node.mem_preorder_of_child hmem (ih c.node hmem hs)
    · exact Node.mem_preorder_of_child (mem_children_of_mem_namedChildren hc)
        (Node.mem_preorder_self _)

/-- Members are in order, also those that come out of error regions. -/
theorem members_inOrder {n : Node} (h : n.WellFormed) :
    Span.InOrder n.start n.stop ((members n).map (·.node.span)) := by
  induction n using Node.treeInduction with
  | step n ih =>
    rw [members_eq_flatMap, List.map_flatMap]
    refine (h.children_inOrder.sublist (namedChildren_sublist n)).flatMap fun c hc => ?_
    have hmem := mem_children_of_mem_namedChildren hc
    rw [expand]
    split
    · exact ih c.node hmem (h.child hmem)
    · exact (h.child hmem).self_inOrder

/-- What sites give, each at most one thing with its own span, has the spans of some of the sites. -/
theorem sublist_of_flatMap {β : Type} {span : β → Span} {f : Site → List β}
    (hf : ∀ s, ((f s).map span).Sublist [s.node.span]) (sites : List Site) :
    ((sites.flatMap f).map span).Sublist (sites.map (·.node.span)) := by
  rw [List.map_flatMap, List.map_eq_flatMap]
  exact List.Sublist.flatMap_right sites fun s _ => hf s

end Site

/-- What is read off the children of a body, each with its own span, is in order inside the node. -/
theorem Node.WellFormed.body_inOrder {β : Type} {span : β → Span} {f : Site → Option β} {n body : Node}
    (h : n.WellFormed) (hb : n.child? "body" = some body)
    (hf : ∀ s y, f s = some y → span y = s.node.span) :
    Span.InOrder n.start n.stop (((Site.namedChildren body).filterMap f).map span) := by
  have hmem := Node.mem_children_of_child? hb
  have hchildren := (h.child hmem).children_inOrder.sublist (Site.namedChildren_sublist body)
  rw [List.filterMap_eq_flatMap_toList]
  refine h.inOrder_of_child hmem (hchildren.sublist (Site.sublist_of_flatMap (fun s => ?_) _))
  cases hs : f s with
  | none => simp
  | some y => simp [hf s y hs]

section Methods
variable {source : Utf8.Bytes} {n : Node}

theorem span_of_traitMethod? {s : Site} {m : TraitMethod} (h : traitMethod? source s = some m) :
    m.span = s.node.span := by
  unfold traitMethod? at h
  split at h
  · obtain ⟨name, _, rfl⟩ := Option.map_eq_some_iff.mp h
    rfl
  · cases h

theorem span_of_implMethod? {includePrivate : Bool} {s : Site} {m : Item}
    (h : implMethod? source includePrivate s = some m) : m.span = s.node.span := by
  obtain ⟨_, _, name, _, rfl⟩ := implMethod?_eq_some.mp h
  rfl

theorem traitMethods_inOrder (h : n.WellFormed) :
    Span.InOrder n.start n.stop ((n.traitMethods source).map TraitMethod.span) := by
  unfold Node.traitMethods
  cases hb : n.child? "body" with
  | none => exact .nil
  | some body => exact h.body_inOrder hb fun _ _ => span_of_traitMethod?

theorem implMethods_inOrder (h : n.WellFormed) (includePrivate : Bool) :
    Span.InOrder n.start n.stop ((n.implMethods source includePrivate).map Item.span) := by
  unfold Node.implMethods
  cases hb : n.child? "body" with
  | none => exact .nil
  | some body => exact h.body_inOrder hb fun _ _ => span_of_implMethod?

theorem methodsFor_bounded {root : Node} (h : root.WellFormed) {includePrivate : Bool} {name : String}
    {method : Item} (hm : method ∈ (ImplIndex.build source includePrivate root).methodsFor name) :
    method.span.start ≤ method.span.stop ∧ method.span.stop ≤ root.stop := by
  obtain ⟨n, hn, -, -, hmethod⟩ := exists_implMethod_of_methodsFor hm
  have hmem := Node.mem_preorder_of_mem_reach hn
  have hspan := (implMethods_inOrder (h.descendant hmem) includePrivate).bounded method.span
    (List.mem_map_of_mem hmethod)
  exact ⟨hspan.2.1, Nat.le_trans hspan.2.2 (h.bounds hmem).2⟩

end Methods

namespace Node
variable {n : Node} (enter : Node → Bool)

/-- The places of recovery are in order, wherever the walk goes. -/
theorem recoveries_inOrder (h : n.WellFormed) :
    Span.InOrder n.start n.stop ((n.recoveries enter).map span) := by
  induction n using treeInduction with
  | step n ih =>
    rw [recoveries_eq]
    split
    · exact h.self_inOrder
    · split
      · rw [List.map_flatMap]
        exact h.children_inOrder.flatMap fun c hc => ih c hc (h.child hc)
      · exact .nil

theorem map_span_diagnose (source : Utf8.Bytes) (n : Node) :
    (n.diagnose source).map Diagnostic.span = ((n.recoveries hasError).map span).map some := by
  have hreport (m : Node) : (m.report source).span = some m.span := by
    unfold report
    split <;> rfl
  rw [diagnose_eq_report, List.map_map, List.map_map]
  exact List.map_congr_left fun m _ => hreport m

end Node

namespace FileContext
variable {ctx : FileContext} {enclosing : List String} {root n : Node}

theorem items_inOrder (h : n.WellFormed) :
    Span.InOrder n.start n.stop ((ctx.assembleInside enclosing n).items.map Item.span) := by
  rw [assembleInside_items]
  refine (Site.members_inOrder h).sublist (Site.sublist_of_flatMap (fun s => ?_) _)
  obtain ⟨_, hc⟩ | ⟨_, _, r, _, hc⟩ | ⟨_, _, item, hi, hc⟩ := ctx.contribution_cases enclosing s
  · simp [hc]
  · simp [hc]
  · simp [hc, hi.fields.2.2.2]

theorem references_inOrder (h : n.WellFormed) :
    Span.InOrder n.start n.stop
      ((ctx.assembleInside enclosing n).references.map ModuleReference.span) := by
  rw [assembleInside_references]
  refine (Site.members_inOrder h).sublist (Site.sublist_of_flatMap (fun s => ?_) _)
  obtain ⟨_, hc⟩ | ⟨_, _, r, hr, hc⟩ | ⟨_, _, item, _, hc⟩ := ctx.contribution_cases enclosing s
  · simp [hc]
  · cases hr
    simp [hc]
  · simp [hc]

theorem Enters.mem_preorder (h : ctx.Enters root enclosing n) : n ∈ root.preorder := by
  induction h with
  | root => exact Node.mem_preorder_self root
  | body _ mem _ _ _ inner ih =>
    have hsite := Node.mem_preorder_trans ih (Site.mem_preorder_of_mem_members mem)
    exact Node.mem_preorder_trans hsite
      (Node.mem_preorder_of_child (Node.mem_children_of_child? inner) (Node.mem_preorder_self _))

/-- Every scope of the outline keeps its declarations in order and inside the root. -/
theorem contained_inOrder {scope : Scope} (h : root.WellFormed)
    (hc : (ctx.assembleInside [] root).Contains scope) :
    Span.InOrder root.start root.stop (scope.items.map Item.span) ∧
      Span.InOrder root.start root.stop (scope.references.map ModuleReference.span) := by
  obtain ⟨enclosing, n, hn, rfl⟩ := exists_enters_of_contains hc
  have hmem := hn.mem_preorder
  exact ⟨h.inOrder_of_descendant hmem (items_inOrder (h.descendant hmem)),
    h.inOrder_of_descendant hmem (references_inOrder (h.descendant hmem))⟩

/-- Every item of the outline comes from a member whose subtree is laid out in order. -/
theorem exists_member_of_contains {scope : Scope} {item : Item} (h : root.WellFormed)
    (hc : (ctx.assembleInside [] root).Contains scope) (hi : item ∈ scope.items) :
    ∃ enclosing s, s.node.WellFormed ∧ ctx.ItemOf enclosing s item := by
  obtain ⟨enclosing, n, hn, rfl⟩ := exists_enters_of_contains hc
  obtain ⟨s, hs, _, hof⟩ := mem_items.mp hi
  exact ⟨enclosing, s, (h.descendant hn.mem_preorder).descendant (Site.mem_preorder_of_mem_members hs),
    hof⟩

section ItemOf
variable {s : Site} {item : Item}

theorem ItemOf.inner_inOrder {inner : Scope} (h : ctx.ItemOf enclosing s item)
    (hs : s.node.WellFormed) (hi : item.inner? = some inner) :
    Span.InOrder item.span.start item.span.stop (inner.items.map Item.span) ∧
      Span.InOrder item.span.start item.span.stop
        (inner.references.map ModuleReference.span) := by
  cases h with
  | @inlineModule name body kind named hb =>
    obtain rfl := Option.some.inj hi
    have hmem := Node.mem_children_of_child? hb
    exact ⟨hs.inOrder_of_child hmem (items_inOrder (hs.child hmem)),
      hs.inOrder_of_child hmem (references_inOrder (hs.child hmem))⟩
  | dataType _ _ => simp [Item.inner?, Site.item] at hi
  | @plain form _ _ rest _ => cases form <;> simp [Item.inner?, Site.item, Form.details] at hi

theorem ItemOf.traitMethods_inOrder {methods : List TraitMethod} (h : ctx.ItemOf enclosing s item)
    (hs : s.node.WellFormed) (hd : item.details = .trait methods) :
    Span.InOrder item.span.start item.span.stop (methods.map TraitMethod.span) := by
  obtain rfl := h.traitMethods_eq hd
  rw [h.fields.2.2.2]
  exact RustOutline.traitMethods_inOrder hs

end ItemOf
end FileContext

section Extraction
variable {source : Utf8.Bytes} {root : Node} {includePrivate : Bool} {parseTimeMs : Int}

theorem hasSpan_bounded {span : Span} (wellFormed : root.WellFormed)
    (h : (extract source root includePrivate parseTimeMs).HasSpan span) :
    span.start ≤ span.stop ∧ span.stop ≤ root.stop := by
  cases h with
  | item hc hi =>
    exact ((FileContext.contained_inOrder wellFormed hc).1.bounded _ (List.mem_map_of_mem hi)).2
  | reference hc hr =>
    exact ((FileContext.contained_inOrder wellFormed hc).2.bounded _ (List.mem_map_of_mem hr)).2
  | dataMethod hc hi hd hm =>
    obtain ⟨_, s, _, hof⟩ := FileContext.exists_member_of_contains wellFormed hc hi
    obtain rfl := hof.methods_eq hd
    exact methodsFor_bounded wellFormed hm
  | traitMethod hc hi hd hm =>
    obtain ⟨_, s, hwf, hof⟩ := FileContext.exists_member_of_contains wellFormed hc hi
    have hitem := (FileContext.contained_inOrder wellFormed hc).1.bounded _ (List.mem_map_of_mem hi)
    have hmethod := (hof.traitMethods_inOrder hwf hd).bounded _ (List.mem_map_of_mem hm)
    omega
  | @diagnostic d span hd hshown =>
    have hmem : some span ∈ (root.diagnose source).map Diagnostic.span :=
      List.mem_map.mpr ⟨d, hd, hshown⟩
    rw [Node.map_span_diagnose] at hmem
    obtain ⟨other, hother, ho⟩ := List.mem_map.mp hmem
    obtain rfl := Option.some.inj ho
    exact ((Node.recoveries_inOrder _ wellFormed).bounded _ hother).2

/-- In a well-formed tree the spans of the response nest as the declarations do, follow one another
within each scope, trait and list of diagnostics, and stay within the file. -/
theorem spans_nest (wellFormed : root.WellFormed) (fits : root.stop ≤ source.length) :
    (extract source root includePrivate parseTimeMs).SpansNest source.length where
  items _ hc := (FileContext.contained_inOrder wellFormed hc).1.ordered
  references _ hc := (FileContext.contained_inOrder wellFormed hc).2.ordered
  modules scope hc item hi inner nested := by
    obtain ⟨_, s, hwf, hof⟩ := FileContext.exists_member_of_contains wellFormed hc hi
    have hinner := hof.inner_inOrder hwf nested
    exact ⟨fun i hi => hinner.1.within (List.mem_map_of_mem hi),
      fun r hr => hinner.2.within (List.mem_map_of_mem hr)⟩
  traits scope hc item hi methods hd := by
    obtain ⟨_, s, hwf, hof⟩ := FileContext.exists_member_of_contains wellFormed hc hi
    have hmethods := hof.traitMethods_inOrder hwf hd
    exact ⟨hmethods.ordered, fun m hm => hmethods.within (List.mem_map_of_mem hm)⟩
  diagnostics := ⟨_, Node.map_span_diagnose source root,
    (Node.recoveries_inOrder Node.hasError wellFormed).ordered⟩
  bounded span hs := by
    have hroot := hasSpan_bounded wellFormed hs
    exact ⟨hroot.1, Nat.le_trans hroot.2 fits⟩

end Extraction

namespace MixedFile

/-- A data type with a method, and a module that holds a trait and a file module behind a stray
parenthesis. -/
def source : Utf8.Bytes :=
  Utf8.encode ("struct S;\nimpl S \x7b fn b() \x7b\x7d \x7d\n" ++
    "mod m \x7b ) trait T \x7b fn a(); \x7d mod r; \x7d")

private abbrev node := Node.ofRange source
private abbrev token := Node.token source

def dataType : Node := node "struct_item" none 0 9 [
  token "struct" 0 6, node "type_identifier" (some "name") 7 8 [], token ";" 8 9]

def method : Node := node "function_item" none 19 28 [
  token "fn" 19 21, node "identifier" (some "name") 22 23 [],
  node "parameters" (some "parameters") 23 25 [token "(" 23 24, token ")" 24 25],
  node "block" (some "body") 26 28 [token "\x7b" 26 27, token "\x7d" 27 28]]

def block : Node := node "impl_item" none 10 30 [
  token "impl" 10 14, node "type_identifier" (some "type") 15 16 [],
  node "declaration_list" (some "body") 17 30 [token "\x7b" 17 18, method, token "\x7d" 29 30]]

def region : Node := { node "ERROR" none 39 40 [token ")" 39 40] with hasError := true }

def traitMethod : Node := node "function_signature_item" none 51 58 [
  token "fn" 51 53, node "identifier" (some "name") 54 55 [],
  node "parameters" (some "parameters") 55 57 [token "(" 55 56, token ")" 56 57],
  token ";" 57 58]

def traitNode : Node := node "trait_item" none 41 60 [
  token "trait" 41 46, node "type_identifier" (some "name") 47 48 [],
  node "declaration_list" (some "body") 49 60 [
    token "\x7b" 49 50, traitMethod, token "\x7d" 59 60]]

def fileModule : Node := node "mod_item" none 61 67 [
  token "mod" 61 64, node "identifier" (some "name") 65 66 [], token ";" 66 67]

def module : Node := { node "mod_item" none 31 69 [
  token "mod" 31 34, node "identifier" (some "name") 35 36 [],
  { node "declaration_list" (some "body") 37 69 [
    token "\x7b" 37 38, region, traitNode, fileModule, token "\x7d" 68 69] with
    hasError := true }] with hasError := true }

def root : Node :=
  { node "source_file" none 0 69 [dataType, block, module] with hasError := true }

theorem spans_nested :
    root.WellFormed ∧ root.stop ≤ source.length ∧
      (extract source root true 0).SpansNest source.length := by
  have wellFormed : root.WellFormed := by decide
  have fits : root.stop ≤ source.length := by decide
  exact ⟨wellFormed, fits, spans_nest wellFormed fits⟩

end MixedFile
end RustOutline
