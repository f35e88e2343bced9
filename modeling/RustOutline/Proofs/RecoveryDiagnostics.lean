import Mathlib.Data.List.Basic
import RustOutline.Outline.Response
import RustOutline.Proofs.ConcreteTree
import RustOutline.Proofs.ScopeMembers

/-! Diagnostics are complete and never repeated: one for each outermost recovery, in document order.
The walk leaves out subtrees without the recovery flag; nothing is lost there as long as the flag
reaches every ancestor of a recovery. -/
namespace RustOutline

/-- A place where the parser had to recover: a token that it inserted or a region that it could not
read. -/
def Node.isRecovery (n : Node) : Bool := n.missing || n.isError

/-- A node of a tree with its ancestors, nearest first. -/
structure Lineage where
  above : List Node
  node : Node

/-- The node is a recovery, and no ancestor is one. -/
def Lineage.isOutermost (l : Lineage) : Bool := l.node.isRecovery && l.above.all (!·.isRecovery)

theorem Lineage.isOutermost_append (l : Lineage) (above : List Node) :
    isOutermost ⟨l.above ++ above, l.node⟩ = (l.isOutermost && above.all (!·.isRecovery)) := by
  simp [isOutermost, Bool.and_assoc]

namespace Node

/-- The diagnostic of a recovery. What was inserted is a missing token, whatever its kind. -/
def report (source : Utf8.Bytes) (n : Node) : Diagnostic :=
  if n.missing then n.missingToken else n.unreadable source

mutual
/-- The node and all its descendants with their ancestors, parents first. -/
def lineages (above : List Node) : Node → List Lineage
  | ⟨k, f, n, m, e, a, b, p, q, children⟩ =>
    let node : Node := ⟨k, f, n, m, e, a, b, p, q, children⟩
    ⟨above, node⟩ :: lineagesAll (node :: above) children

def lineagesAll (above : List Node) : List Node → List Lineage
  | [] => []
  | c :: cs => lineages above c ++ lineagesAll above cs
end

/-- The recoveries that no other recovery encloses, in document order. -/
def outermost (n : Node) : List Node := ((n.lineages []).filter Lineage.isOutermost).map Lineage.node

/-- Every ancestor of a recovery carries the flag. -/
def FlagsRecovery (root : Node) : Prop :=
  ∀ l ∈ root.lineages [], l.node.isRecovery → ∀ a ∈ l.above, a.hasError

instance (root : Node) : Decidable root.FlagsRecovery :=
  inferInstanceAs (Decidable (∀ l ∈ root.lineages [], l.node.isRecovery → ∀ a ∈ l.above, a.hasError))

mutual
/-- The recoveries that a walk meets first on its way down, if it goes below the nodes for which
`enter` holds. -/
def recoveries (enter : Node → Bool) : Node → List Node
  | ⟨k, f, n, m, e, a, b, p, q, children⟩ =>
    let node : Node := ⟨k, f, n, m, e, a, b, p, q, children⟩
    if node.isRecovery then [node]
    else if enter node then recoveriesAll enter children
    else []

def recoveriesAll (enter : Node → Bool) : List Node → List Node
  | [] => []
  | c :: cs => recoveries enter c ++ recoveriesAll enter cs
end

theorem preorder_eq (n : Node) : n.preorder = n :: n.children.flatMap preorder := by
  have run (cs : List Node) : preorderAll cs = cs.flatMap preorder := by
    induction cs with
    | nil => simp [preorderAll]
    | cons c cs ih => simp [preorderAll, ih]
  cases n
  rw [preorder, run]

theorem lineages_eq (above : List Node) (n : Node) :
    n.lineages above = ⟨above, n⟩ :: n.children.flatMap (lineages (n :: above)) := by
  have run (above cs : List Node) : lineagesAll above cs = cs.flatMap (lineages above) := by
    induction cs with
    | nil => simp [lineagesAll]
    | cons c cs ih => simp [lineagesAll, ih]
  cases n
  rw [lineages, run]

theorem recoveries_eq (enter : Node → Bool) (n : Node) :
    n.recoveries enter =
      if n.isRecovery then [n]
      else if enter n then n.children.flatMap (recoveries enter)
      else [] := by
  have run (cs : List Node) : recoveriesAll enter cs = cs.flatMap (recoveries enter) := by
    induction cs with
    | nil => simp [recoveriesAll]
    | cons c cs ih => simp [recoveriesAll, ih]
  cases n
  rw [recoveries, run]

/-- The stack is worked off in the order of a walk that goes below flagged nodes only. -/
theorem diagnoseStack_eq_report (source : Utf8.Bytes) (stack : List Node) :
    diagnoseStack source stack = (stack.flatMap (recoveries hasError)).map (report source) := by
  fun_induction diagnoseStack source stack with
  | case1 => rfl
  | case2 n rest missing ih => simp [recoveries_eq, isRecovery, report, missing, ih]
  | case3 n rest present error ih => simp [recoveries_eq, isRecovery, report, present, error, ih]
  | case4 n rest present readable flagged ih =>
    simp [recoveries_eq hasError n, isRecovery, present, readable, flagged, ih]
  | case5 n rest present readable clean ih =>
    simp [recoveries_eq hasError n, isRecovery, present, readable, clean, ih]

theorem diagnose_eq_report (source : Utf8.Bytes) (n : Node) :
    n.diagnose source = (n.recoveries hasError).map (report source) := by
  simp [diagnose, diagnoseStack_eq_report]

theorem lineages_above (above : List Node) (n : Node) :
    n.lineages above = (n.lineages []).map fun l => ⟨l.above ++ above, l.node⟩ := by
  induction n using treeInduction generalizing above with
  | step n ih =>
    rw [lineages_eq above, lineages_eq [], List.map_cons, List.map_flatMap]
    refine congrArg₂ List.cons rfl (List.flatMap_congr fun c hc => ?_)
    rw [ih c hc (n :: above), ih c hc [n], List.map_map]
    simp [Function.comp_def]

theorem map_node_lineages (n : Node) : (n.lineages []).map Lineage.node = n.preorder := by
  induction n using treeInduction with
  | step n ih =>
    rw [lineages_eq, preorder_eq, List.map_cons, List.map_flatMap]
    refine congrArg (n :: ·) (List.flatMap_congr fun c hc => ?_)
    rw [lineages_above, List.map_map, ← ih c hc]
    rfl

theorem mem_lineages_of_child {n c : Node} {l : Lineage} (hc : c ∈ n.children)
    (hl : l ∈ c.lineages []) : ⟨l.above ++ [n], l.node⟩ ∈ n.lineages [] := by
  rw [lineages_eq]
  refine List.mem_cons_of_mem _ (List.mem_flatMap.mpr ⟨c, hc, ?_⟩)
  rw [lineages_above]
  exact List.mem_map_of_mem hl

/-- An outermost recovery is the node itself, or one of a child if the node is none. -/
theorem outermost_eq (n : Node) :
    n.outermost = if n.isRecovery then [n] else n.children.flatMap outermost := by
  have inChild (c : Node) : ((c.lineages [n]).filter Lineage.isOutermost).map Lineage.node =
      if n.isRecovery then [] else c.outermost := by
    rw [lineages_above, List.filter_map, List.map_map]
    cases h : n.isRecovery with
    | true => simp [Function.comp_def, Lineage.isOutermost_append, h]
    | false => simp [Function.comp_def, Lineage.isOutermost_append, h, outermost]
  have hself : Lineage.isOutermost ⟨[], n⟩ = n.isRecovery := by simp [Lineage.isOutermost]
  rw [outermost, lineages_eq, List.filter_cons, hself, List.filter_flatMap]
  cases h : n.isRecovery <;> simp [h, List.map_flatMap, inChild]

theorem recoveries_eq_outermost (n : Node) : (n.recoveries fun _ => true) = n.outermost := by
  induction n using treeInduction with
  | step n ih =>
    rw [recoveries_eq, outermost_eq]
    simp [List.flatMap_congr ih]

/-- A walk that goes everywhere finds a recovery wherever there is one. -/
theorem outermost_eq_nil_iff (n : Node) :
    n.outermost = [] ↔ ∀ d ∈ n.preorder, d.isRecovery = false := by
  induction n using treeInduction with
  | step n ih =>
    rw [outermost_eq, preorder_eq]
    cases h : n.isRecovery with
    | true => simp [h]
    | false =>
      simp only [Bool.false_eq_true, if_false, List.flatMap_eq_nil_iff, List.forall_mem_cons, h,
        true_and, List.mem_flatMap]
      constructor
      · rintro hc d ⟨c, hmem, hd⟩
        exact (ih c hmem).mp (hc c hmem) d hd
      · intro hd c hmem
        exact (ih c hmem).mpr fun d hd' => hd d ⟨c, hmem, hd'⟩

theorem FlagsRecovery.child {n c : Node} (h : n.FlagsRecovery) (hc : c ∈ n.children) :
    c.FlagsRecovery := by
  intro l hl hr a ha
  exact h _ (mem_lineages_of_child hc hl) hr a (List.mem_append_left _ ha)

/-- Below a node without the flag there is nothing to find. -/
theorem FlagsRecovery.outermost_eq_nil {n c : Node} (h : n.FlagsRecovery) (hf : n.hasError = false)
    (hc : c ∈ n.children) : c.outermost = [] := by
  rw [outermost_eq_nil_iff, ← map_node_lineages]
  intro d hd
  obtain ⟨l, hl, rfl⟩ := List.mem_map.mp hd
  by_contra hr
  have hflag := h _ (mem_lineages_of_child hc hl) (by simpa using hr) n (by simp)
  simp [hf] at hflag

/-- The flag test changes nothing. -/
theorem FlagsRecovery.recoveries_eq_outermost {n : Node} (h : n.FlagsRecovery) :
    n.recoveries hasError = n.outermost := by
  induction n using treeInduction with
  | step n ih =>
    rw [recoveries_eq, outermost_eq]
    split
    · rfl
    · split
      · exact List.flatMap_congr fun c hc => ih c hc (h.child hc)
      · next hf =>
        -- only here does the flag make the walk stop
        refine (List.flatMap_eq_nil_iff.mpr fun c hc => ?_).symm
        exact h.outermost_eq_nil (by simpa using hf) hc

end Node

/-- One diagnostic for each outermost recovery, in document order. The walk without the flag test
finds no more, and extraction succeeds exactly on trees without any recovery. -/
theorem diagnostics_complete {source : Utf8.Bytes} {root : Node} (flags : root.FlagsRecovery) :
    root.diagnose source = root.outermost.map (Node.report source) ∧
      root.diagnose source = (root.recoveries fun _ => true).map (Node.report source) ∧
      ∀ includePrivate parseTimeMs,
        (extract source root includePrivate parseTimeMs).success = true ↔
          ∀ n ∈ root.preorder, n.missing = false ∧ n.isError = false := by
  have hreports : root.diagnose source = root.outermost.map (Node.report source) := by
    rw [Node.diagnose_eq_report, flags.recoveries_eq_outermost]
  refine ⟨hreports, by rw [hreports, Node.recoveries_eq_outermost], fun _ _ => ?_⟩
  have hclean : (root.diagnose source).isEmpty = true ↔ root.outermost = [] := by
    rw [hreports, List.isEmpty_iff, List.map_eq_nil_iff]
  rw [extract, hclean, Node.outermost_eq_nil_iff]
  simp [Node.isRecovery]

namespace StrayDeclaration

/-- The file `[ pub struct In; ]`: the region in the list is unreadable, and a semicolon is missing
behind it. -/
def source : Utf8.Bytes := Utf8.encode "[ pub struct In; ]"

private abbrev node := Node.ofRange source
private abbrev token := Node.token source

def region : Node := { node "ERROR" none 6 16 [
  node "identifier" none 6 12 [], node "identifier" none 13 15 [], token ";" 15 16] with
  hasError := true }

def semicolon : Node := { token ";" 18 18 with missing := true, hasError := true }

def list : Node := { node "array_expression" none 0 18 [
  token "[" 0 1, node "identifier" none 2 5 [], region, token "]" 17 18] with hasError := true }

def statement : Node :=
  { node "expression_statement" none 0 18 [list, semicolon] with hasError := true }

def root : Node := { node "source_file" none 0 18 [statement] with hasError := true }

theorem recoveries_reported :
    root.FlagsRecovery ∧ root.outermost = [region, semicolon] ∧
      root.diagnose source = [region.unreadable source, semicolon.missingToken] ∧
      (extract source root true 0).success = false := by
  have flags : root.FlagsRecovery := by decide
  have unclean : ¬ ∀ n ∈ root.preorder, n.missing = false ∧ n.isError = false := by decide
  obtain ⟨hreports, _, hsuccess⟩ := @diagnostics_complete source root flags
  exact ⟨flags, rfl, hreports, Bool.eq_false_iff.mpr fun h => unclean ((hsuccess true 0).mp h)⟩

end StrayDeclaration
end RustOutline
