import RustOutline.Outline.Assembly

/-! The members of a scope: its named children, with every error region replaced by what it holds.
A scope is made of what its members contribute, one after another. -/
namespace RustOutline

attribute [ext] Scope

namespace Scope
variable (s t u : Scope)

@[simp] theorem items_append : (s ++ t).items = s.items ++ t.items := rfl
@[simp] theorem references_append : (s ++ t).references = s.references ++ t.references := rfl
@[simp] theorem items_empty : Scope.empty.items = [] := rfl
@[simp] theorem references_empty : Scope.empty.references = [] := rfl
@[simp] theorem items_ofItem (item : Item) : (ofItem item).items = [item] := rfl
@[simp] theorem references_ofItem (item : Item) : (ofItem item).references = [] := rfl
@[simp] theorem items_ofReference (r : ModuleReference) : (ofReference r).items = [] := rfl
@[simp] theorem references_ofReference (r : ModuleReference) :
    (ofReference r).references = [r] := rfl

@[simp] theorem empty_append : .empty ++ s = s := rfl

@[simp] theorem append_empty : s ++ .empty = s := by
  ext1 <;> simp

theorem append_assoc : s ++ t ++ u = s ++ (t ++ u) := by
  ext1 <;> simp

def join : List Scope → Scope
  | [] => .empty
  | s :: rest => s ++ join rest

theorem items_join (scopes : List Scope) : (join scopes).items = scopes.flatMap Scope.items := by
  induction scopes with
  | nil => rfl
  | cons s rest ih => simp [join, ih]

theorem references_join (scopes : List Scope) :
    (join scopes).references = scopes.flatMap Scope.references := by
  induction scopes with
  | nil => rfl
  | cons s rest ih => simp [join, ih]

theorem join_append (as bs : List Scope) : join (as ++ bs) = join as ++ join bs := by
  induction as with
  | nil => rfl
  | cons s rest ih => rw [List.cons_append, join, join, ih, append_assoc]

end Scope

namespace Node

theorem sizeOf_lt_of_mem_children {c n : Node} (h : c ∈ n.children) : sizeOf c < sizeOf n := by
  have := List.sizeOf_lt_of_mem h
  cases n
  simp only [Node.mk.sizeOf_spec] at this ⊢
  omega

/-- What holds of a node as soon as it holds of its children holds of every node. -/
theorem treeInduction {P : Node → Prop} (step : ∀ n, (∀ c ∈ n.children, P c) → P n) (n : Node) :
    P n :=
  step n fun c _ => treeInduction step c
termination_by sizeOf n
decreasing_by exact sizeOf_lt_of_mem_children ‹_›

mutual
/-- The node and all it reaches through named children, parents first. -/
def reach : Node → List Node
  | ⟨k, f, n, m, e, a, b, p, q, children⟩ =>
    ⟨k, f, n, m, e, a, b, p, q, children⟩ :: reachAll children

def reachAll : List Node → List Node
  | [] => []
  | c :: cs => if c.named then reach c ++ reachAll cs else reachAll cs
end

theorem reach_eq (n : Node) : n.reach = n :: reachAll n.children := by
  cases n
  rw [reach]

theorem reachAll_append (cs ds : List Node) : reachAll (cs ++ ds) = reachAll cs ++ reachAll ds := by
  induction cs with
  | nil => simp [reachAll]
  | cons c cs ih =>
    rw [List.cons_append, reachAll, reachAll, ih]
    split <;> simp

theorem reachAll_named (cs : List Node) : reachAll (cs.filter named) = reachAll cs := by
  induction cs with
  | nil => rfl
  | cons c cs ih =>
    rw [List.filter_cons, reachAll]
    split
    · next hc => rw [reachAll, if_pos hc, ih]
    · next hc => exact ih

theorem reachAll_eq_flatMap (cs : List Node) : reachAll cs = (cs.filter named).flatMap reach := by
  induction cs with
  | nil => simp [reachAll]
  | cons c cs ih =>
    rw [reachAll, List.filter_cons, ih]
    split <;> simp

end Node

namespace ImplIndex
variable {source : Utf8.Bytes} {includePrivate : Bool}

/-- The stack is worked off in the order of the walk, node by node. -/
theorem collect_eq (index : ImplIndex) (stack : List Node) :
    collect source includePrivate index stack = {
      blocks := index.blocks ++
        (stack.flatMap Node.reach).filterMap (Node.implBlock? source includePrivate)
      dataNames := index.dataNames ++
        (stack.flatMap Node.reach).filterMap (Node.dataName? source) } := by
  fun_induction collect source includePrivate index stack with
  | case1 index => simp
  | case2 index n rest ih =>
    have hwalk : (n :: rest).flatMap Node.reach =
        [n] ++ (n.namedChildren ++ rest).flatMap Node.reach := by
      rw [List.flatMap_cons, Node.reach_eq, Node.reachAll_eq_flatMap, List.flatMap_append]
      rfl
    rw [ih, hwalk, List.filterMap_append, List.filterMap_append]
    simp only [add, List.append_assoc, List.filterMap_cons, List.filterMap_nil]
    cases n.implBlock? source includePrivate <;> cases n.dataName? source <;> rfl

/-- All blocks and data types that the root reaches through named children. -/
theorem build_eq {root : Node} : build source includePrivate root = {
    blocks := root.reach.filterMap (Node.implBlock? source includePrivate)
    dataNames := root.reach.filterMap (Node.dataName? source) } := by
  simp [build, collect_eq]

theorem mem_blocks_build {root : Node} {block : ImplBlock} :
    block ∈ (build source includePrivate root).blocks ↔
      ∃ n ∈ root.reach, n.implBlock? source includePrivate = some block := by
  rw [build_eq, List.mem_filterMap]

theorem mem_dataNames_build {root : Node} {name : String} :
    name ∈ (build source includePrivate root).dataNames ↔
      ∃ n ∈ root.reach, n.dataName? source = some name := by
  rw [build_eq, List.mem_filterMap]

end ImplIndex

namespace Site

mutual
/-- What a child of a scope stands for: itself, or the members of an error region. -/
def splice (underError : Bool) (before : List Node) : Node → List Site
  | ⟨k, f, n, m, e, a, b, p, q, children⟩ =>
    if k == "ERROR" then spliceAll true [] children
    else [⟨⟨k, f, n, m, e, a, b, p, q, children⟩, underError, before⟩]

def spliceAll (underError : Bool) (before : List Node) : List Node → List Site
  | [] => []
  | c :: cs =>
    (if c.named then splice underError before c else []) ++ spliceAll underError (c :: before) cs
end

/-- The members of the scope of a node's children, in source order. -/
def members (n : Node) : List Site := spliceAll n.isError [] n.children

theorem splice_eq (underError : Bool) (before : List Node) (n : Node) :
    splice underError before n = if n.isError then members n else [⟨n, underError, before⟩] := by
  cases n with
  | mk k f nm m e a b p q children =>
    unfold splice
    by_cases h : (k == "ERROR") = true
    · simp [Node.isError, members, h]
    · simp [Node.isError, h]

def expand (s : Site) : List Site := if s.node.isError then members s.node else [s]

/-- Members are the named children, error regions replaced in place, to any depth. -/
theorem members_eq_flatMap (n : Node) : members n = (namedChildren n).flatMap expand := by
  have run (underError : Bool) (before cs : List Node) :
      spliceAll underError before cs =
        ((ofSiblings underError before cs).filter fun s => s.node.named).flatMap expand := by
    induction cs generalizing before with
    | nil => rfl
    | cons c cs ih =>
      rw [spliceAll, ofSiblings, List.filter_cons, ih]
      cases c.named with
      | true => simp [splice_eq, expand]
      | false => simp
  exact run n.isError [] n.children

theorem mem_children_of_mem_namedChildren {s : Site} {n : Node} (h : s ∈ namedChildren n) :
    s.node ∈ n.children := by
  have run (underError : Bool) (before cs : List Node)
      (h : s ∈ ofSiblings underError before cs) : s.node ∈ cs := by
    induction cs generalizing before with
    | nil => simp [ofSiblings] at h
    | cons c cs ih =>
      rcases List.mem_cons.mp h with rfl | h
      · exact List.mem_cons_self
      · exact List.mem_cons_of_mem _ (ih _ h)
  exact run _ _ _ (List.mem_filter.mp h).1

theorem mem_members {s : Site} {n : Node} :
    s ∈ members n ↔ ∃ c ∈ namedChildren n,
      (c.node.isError = true ∧ s ∈ members c.node) ∨ (c.node.isError = false ∧ s = c) := by
  rw [members_eq_flatMap, List.mem_flatMap]
  refine exists_congr fun c => and_congr_right fun _ => ?_
  rw [expand]
  cases c.node.isError <;> simp

theorem sizeOf_lt_of_mem_members {n : Node} : ∀ {s : Site}, s ∈ members n → sizeOf s.node < sizeOf n := by
  induction n using Node.treeInduction with
  | step n ih =>
    intro s hs
    obtain ⟨c, hc, ⟨_, hs⟩ | ⟨_, rfl⟩⟩ := mem_members.mp hs
    · have hmem := mem_children_of_mem_namedChildren hc
      exact Nat.lt_trans (ih c.node hmem hs) (Node.sizeOf_lt_of_mem_children hmem)
    · exact Node.sizeOf_lt_of_mem_children (mem_children_of_mem_namedChildren hc)

/-- Induction along module nesting: the bodies of the modules of a scope come before it. -/
theorem scopeInduction {P : Node → Prop}
    (step : ∀ n, (∀ s ∈ members n, ∀ body, s.node.child? "body" = some body → P body) → P n)
    (n : Node) : P n :=
  step n fun _ _ body _ => scopeInduction step body
termination_by sizeOf n
decreasing_by
  rename_i hs hb
  exact Nat.lt_trans (Node.sizeOf_lt_of_mem_children (Node.mem_children_of_child? hb))
    (sizeOf_lt_of_mem_members hs)

end Site

namespace FileContext
variable (ctx : FileContext) (enclosing : List String)

def ofFile (source : Utf8.Bytes) (includePrivate : Bool) (root : Node) : FileContext :=
  { source, includePrivate, impls := ImplIndex.build source includePrivate root }

section OfFile
variable (source : Utf8.Bytes) (includePrivate : Bool) (root : Node)

@[simp] theorem source_ofFile : (ofFile source includePrivate root).source = source := rfl
@[simp] theorem includePrivate_ofFile :
    (ofFile source includePrivate root).includePrivate = includePrivate := rfl
@[simp] theorem impls_ofFile :
    (ofFile source includePrivate root).impls = ImplIndex.build source includePrivate root := rfl

end OfFile

/-- What one member adds to its scope. -/
def contribution (s : Site) : Scope :=
  if s.node.kind == "mod_item" then
    match s.node.fieldText? ctx.source "name" with
    | none => .empty
    | some name => ctx.declareModule enclosing s name
        ((s.node.child? "body").map (ctx.assembleInside (enclosing ++ [name])))
  else ctx.declare s

/-- A module with a body adds the scope of that body. -/
theorem contribution_of_body {s : Site} {name : String} {body : Node}
    (kind : s.node.kind = "mod_item") (named : s.node.fieldText? ctx.source "name" = some name)
    (inner : s.node.child? "body" = some body) :
    ctx.contribution enclosing s = ctx.declareModule enclosing s name
      (some (ctx.assembleInside (enclosing ++ [name]) body)) := by
  simp [contribution, kind, named, inner]

/-- The stack is worked off member by member. -/
theorem assembleStack_eq_join (sites : List Site) : ctx.assembleStack enclosing sites =
    .join ((sites.flatMap Site.expand).map (ctx.contribution enclosing)) := by
  fun_induction assembleStack ctx enclosing sites with
  | case1 => rfl
  | case2 enclosing s rest error ih =>
    have hexpand : (s :: rest).flatMap Site.expand =
        (Site.namedChildren s.node ++ rest).flatMap Site.expand := by
      rw [List.flatMap_cons, List.flatMap_append, Site.expand, if_pos error,
        Site.members_eq_flatMap]
    rw [ih, hexpand]
  | case3 enclosing s rest plain scope ihbody ih =>
    have hscope : scope = ctx.contribution enclosing s := by
      unfold scope contribution
      split
      · cases s.node.fieldText? ctx.source "name" with
        | none => rfl
        | some name =>
          refine congrArg (ctx.declareModule enclosing s name) ?_
          split <;> simp [*, assembleInside]
      · rfl
    rw [ih, hscope, List.flatMap_cons, Site.expand, if_neg plain]
    rfl

theorem assembleInside_eq_join (n : Node) :
    ctx.assembleInside enclosing n =
      .join ((Site.members n).map (ctx.contribution enclosing)) := by
  rw [assembleInside, assembleStack_eq_join, Site.members_eq_flatMap]

theorem assembleInside_items (n : Node) :
    (ctx.assembleInside enclosing n).items =
      (Site.members n).flatMap fun s => (ctx.contribution enclosing s).items := by
  rw [assembleInside_eq_join, Scope.items_join, List.flatMap_map]

theorem assembleInside_references (n : Node) :
    (ctx.assembleInside enclosing n).references =
      (Site.members n).flatMap fun s => (ctx.contribution enclosing s).references := by
  rw [assembleInside_eq_join, Scope.references_join, List.flatMap_map]

end FileContext

theorem fileScope_eq (source : Utf8.Bytes) (includePrivate : Bool) (root : Node) :
    fileScope source includePrivate root =
      (FileContext.ofFile source includePrivate root).assembleInside [] root := rfl

theorem fileScope_eq_join (source : Utf8.Bytes) (includePrivate : Bool) (root : Node) :
    fileScope source includePrivate root = .join ((Site.members root).map
      (FileContext.contribution {
        source, includePrivate
        impls := {
          blocks := root.reach.filterMap (Node.implBlock? source includePrivate)
          dataNames := root.reach.filterMap (Node.dataName? source) } } [])) := by
  rw [fileScope_eq, FileContext.assembleInside_eq_join, FileContext.ofFile, ImplIndex.build_eq]

end RustOutline
