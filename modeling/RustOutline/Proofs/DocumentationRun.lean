import Mathlib.Data.List.Induction
import Mathlib.Data.Option.Basic
import RustOutline.Proofs.ConcreteTree
import RustOutline.Proofs.DeclarationAccount

/-! Documentation by siblings is the run of comments and attributes directly above a declaration.
The run ends at the nearest child that is neither an attribute nor a `///` comment: neither what
stands beyond that child nor what follows the declaration has a say. -/
namespace RustOutline

theorem Site.getElem?_children (n : Node) (i : Nat) :
    (Site.children n)[i]? =
      n.children[i]?.map fun c => ⟨c, n.isError, (n.children.take i).reverse⟩ := by
  -- the siblings already passed grow with every step, so they vary in the induction
  have run (underError : Bool) (before cs : List Node) (i : Nat) :
      (ofSiblings underError before cs)[i]? =
        cs[i]?.map fun c => ⟨c, underError, (cs.take i).reverse ++ before⟩ := by
    induction cs generalizing before i with
    | nil => rfl
    | cons c cs ih =>
      cases i with
      | zero => rfl
      | succ i => simp [ofSiblings, ih]
  rw [children, run]
  simp

namespace DocComment
open Text

/-- A `///` comment with its content. A fourth slash makes it a plain comment. -/
inductive OuterLine (text : List Char) : List Char → Prop
  | mk {rest : List Char} (slashes : trim text = '/' :: '/' :: '/' :: rest)
      (third : rest.head? ≠ some '/') : OuterLine text (trim rest)

/-- A `#[doc = "…"]` attribute item with its unquoted value. -/
inductive DocAttribute (source : Utf8.Bytes) (n : Node) : List Char → Prop
  | mk {attr path value : Node}
      (inner : n.children.find? (fun c => c.kind == "attribute") = some attr)
      (first : attr.namedChildren.head? = some path) (identifier : path.kind = "identifier")
      (doc : path.bytes source = Utf8.encode "doc") (assigned : attr.child? "value" = some value)
      (literal : value.kind = "string_literal" ∨ value.kind = "raw_string_literal") :
      DocAttribute source n (unquote (value.text source).toList)

/-- What a child adds to the documentation of a declaration below it. -/
inductive Contributes (source : Utf8.Bytes) (n : Node) : List Char → Prop
  | comment {content : List Char} (kind : n.kind = "line_comment")
      (line : OuterLine (n.text source).toList content) : Contributes source n content
  | docAttribute {content : List Char} (kind : n.kind = "attribute_item")
      (value : DocAttribute source n content) : Contributes source n content

/-- Neither an attribute item nor a `///` comment. -/
def EndsRun (source : Utf8.Bytes) (n : Node) : Prop :=
  n.kind ≠ "attribute_item" ∧
    ¬ (n.kind = "line_comment" ∧ ∃ content, OuterLine (n.text source).toList content)

/-- The last children of a list are a run, and the one before them, if there is one, ends it. -/
structure IsRun (source : Utf8.Bytes) (above run : List Node) : Prop where
  within : ∀ c ∈ run, ¬ EndsRun source c
  ended : ∀ c, above.getLast? = some c → EndsRun source c

def joined (contents : List (List Char)) : Option String :=
  if contents = [] then none else some ("\n".intercalate (contents.map String.ofList))

theorem assemble_reverse (contents : List (List Char)) :
    assemble contents.reverse = joined contents := by
  simp [assemble, joined, joinLines]

section Roles
variable {source : Utf8.Bytes} {n : Node} {content : List Char}

theorem outerLine?_eq_some {text : List Char} :
    outerLine? text = some content ↔ OuterLine text content := by
  have hslashes (t : List Char) :
      ("///".toList.isPrefixOf t && !"////".toList.isPrefixOf t) = true ↔
        ∃ rest, t = '/' :: '/' :: '/' :: rest ∧ rest.head? ≠ some '/' := by
    simp only [Bool.and_eq_true, Bool.not_eq_true', ← Bool.not_eq_true, List.isPrefixOf_iff_prefix]
    constructor
    · rintro ⟨⟨rest, rfl⟩, third⟩
      refine ⟨rest, rfl, fun hhead => third ?_⟩
      obtain ⟨tail, rfl⟩ := List.head?_eq_some_iff.mp hhead
      exact ⟨tail, rfl⟩
    · rintro ⟨rest, rfl, third⟩
      refine ⟨⟨rest, rfl⟩, fun ⟨tail, htail⟩ => third ?_⟩
      obtain rfl : '/' :: tail = rest := by simpa using htail
      rfl
  simp only [outerLine?, Option.ite_none_right_eq_some, hslashes, Option.some.injEq]
  constructor
  · rintro ⟨⟨rest, slashes, third⟩, rfl⟩
    rw [slashes]
    exact .mk slashes third
  · rintro ⟨slashes, third⟩
    exact ⟨⟨_, slashes, third⟩, by rw [slashes]; rfl⟩

theorem attributeValue?_eq_some :
    attributeValue? source n = some content ↔ DocAttribute source n content := by
  simp only [attributeValue?, Option.bind_eq_bind, Option.bind_eq_some_iff, Option.guard_eq_some',
    Option.pure_def, Option.some.injEq, exists_const, Bool.and_eq_true, Bool.or_eq_true, beq_iff_eq]
  constructor
  · rintro ⟨attr, inner, path, first, ⟨identifier, doc⟩, value, assigned, literal, rfl⟩
    exact .mk inner first identifier doc assigned literal
  · rintro ⟨inner, first, identifier, doc, assigned, literal⟩
    exact ⟨_, inner, _, first, ⟨identifier, doc⟩, _, assigned, literal, rfl⟩

theorem role_eq_doc : role source n = .doc content ↔ Contributes source n content := by
  unfold role
  constructor
  · intro h
    split at h
    · next hk =>
      split at h
      · next hline =>
        obtain rfl := Role.doc.inj h
        exact .comment (by simpa using hk) (outerLine?_eq_some.mp hline)
      · cases h
    · split at h
      · next hk =>
        split at h
        · next hvalue =>
          obtain rfl := Role.doc.inj h
          exact .docAttribute (by simpa using hk) (attributeValue?_eq_some.mp hvalue)
        · cases h
      · cases h
  · intro h
    cases h with
    | comment kind line => simp [kind, outerLine?_eq_some.mpr line]
    | docAttribute kind value => simp [kind, attributeValue?_eq_some.mpr value]

theorem role_eq_boundary : role source n = .boundary ↔ EndsRun source n := by
  unfold role EndsRun
  simp only [← outerLine?_eq_some]
  by_cases hc : n.kind = "line_comment"
  · cases outerLine? (n.text source).toList <;> simp [hc]
  · by_cases ha : n.kind = "attribute_item"
    · cases attributeValue? source n <;> simp [ha]
    · simp [hc, ha]

end Roles

namespace Role

def content? : Role → Option (List Char)
  | .doc content => some content
  | _ => none

/-- What a scan from below collects: the contents up to the first boundary, nearest first. -/
def collect : List Role → List (List Char)
  | [] => []
  | .doc content :: rest => content :: collect rest
  | .silent :: rest => collect rest
  | .boundary :: _ => []

theorem collect_append {near : List Role} (h : boundary ∉ near) (far : List Role) :
    collect (near ++ far) = near.filterMap content? ++ collect far := by
  induction near with
  | nil => rfl
  | cons r near ih =>
    simp only [List.mem_cons, not_or] at h
    obtain ⟨hr, hnear⟩ := h
    rw [List.cons_append, List.filterMap_cons]
    cases r with
    | doc content => exact congrArg (content :: ·) (ih hnear)
    | silent => exact ih hnear
    | boundary => exact absurd rfl hr

theorem collect_eq_nil {far : List Role} (h : ∀ r, far.head? = some r → r = boundary) :
    collect far = [] := by
  cases far with
  | nil => rfl
  | cons r far => rw [h r rfl, collect]

theorem collect_reverse {above run : List Role} (within : boundary ∉ run)
    (ended : ∀ r, above.getLast? = some r → r = boundary) :
    collect (above ++ run).reverse = (run.filterMap content?).reverse := by
  have hnear : boundary ∉ run.reverse := by simpa using within
  have hfar : ∀ r, above.reverse.head? = some r → r = boundary :=
    fun r hr => ended r (by simpa using hr)
  rw [List.reverse_append, collect_append hnear, collect_eq_nil hfar, List.append_nil,
    List.filterMap_reverse]

end Role

/-- Any list ends in a run: none of its elements ends it, and the element before them does. -/
theorem exists_run {α : Type} (ends : α → Prop) (xs : List α) :
    ∃ above run, xs = above ++ run ∧ (∀ x ∈ run, ¬ ends x) ∧
      ∀ x, above.getLast? = some x → ends x := by
  induction xs using List.reverseRecOn with
  | nil => exact ⟨[], [], rfl, by simp, by simp⟩
  | append_singleton xs x ih =>
    by_cases hx : ends x
    · exact ⟨xs ++ [x], [], by simp, by simp, by simpa using hx⟩
    · obtain ⟨above, run, rfl, within, ended⟩ := ih
      refine ⟨above, run ++ [x], by simp, fun y hy => ?_, ended⟩
      rcases List.mem_append.mp hy with hy | hy
      · exact within y hy
      · rwa [List.mem_singleton.mp hy]

section Run
variable {source : Utf8.Bytes} {above run : List Node}

theorem runAbove_eq_collect (source : Utf8.Bytes) (ns : List Node) :
    runAbove source ns = Role.collect (ns.map (role source)) := by
  induction ns with
  | nil => rfl
  | cons n ns ih =>
    rw [runAbove, List.map_cons, ih]
    cases role source n <;> rfl

theorem IsRun.runAbove_eq (h : IsRun source above run) :
    runAbove source (above ++ run).reverse =
      (run.filterMap fun c => (role source c).content?).reverse := by
  rw [runAbove_eq_collect, List.map_reverse, List.map_append, Role.collect_reverse,
    List.filterMap_map]
  · rfl
  · intro hmem
    obtain ⟨c, hc, hrole⟩ := List.mem_map.mp hmem
    exact h.within c hc (role_eq_boundary.mp hrole)
  · intro r hr
    rw [List.getLast?_map] at hr
    obtain ⟨c, hc, rfl⟩ := Option.map_eq_some_iff.mp hr
    exact role_eq_boundary.mpr (h.ended c hc)

theorem exists_isRun (source : Utf8.Bytes) (cs : List Node) :
    ∃ above run, cs = above ++ run ∧ IsRun source above run := by
  obtain ⟨above, run, hcs, within, ended⟩ := exists_run (EndsRun source) cs
  exact ⟨above, run, hcs, within, ended⟩

theorem contents_drawn (source : Utf8.Bytes) (run : List Node) :
    ∃ places, Drawn run (fun c => ∃ content, Contributes source c content) (Contributes source)
      places (run.filterMap fun c => (role source c).content?) := by
  apply Drawn.ofFilterMap
  intro c
  simp only [← role_eq_doc]
  cases role source c with
  | doc content => exact .inr ⟨⟨content, rfl⟩, content, rfl, rfl⟩
  | silent => exact .inl ⟨by simp, rfl⟩
  | boundary => exact .inl ⟨by simp, rfl⟩

/-- Outside of error regions the run alone decides. -/
theorem IsRun.ofSite_eq (h : IsRun source above run) {s : Site} (readable : s.underError = false)
    (before : s.before = (above ++ run).reverse) :
    ofSite source s = joined (run.filterMap fun c => (role source c).content?) := by
  rw [ofSite, readable, before, h.runAbove_eq, ← assemble_reverse]
  rfl

end Run

/-- The documentation of a child of a readable node is made of what the children in the run above it
contribute, in source order; it is absent if none of them does. Beyond the child that ends the run,
and below the declaration, all siblings may change. -/
theorem documentation_is_run_above (source : Utf8.Bytes) {parent : Node} {i : Nat} {s : Site}
    (readable : parent.isError = false) (place : (Site.children parent)[i]? = some s) :
    ∃ above run below, parent.children = above ++ run ++ s.node :: below ∧
      (above ++ run).length = i ∧ IsRun source above run ∧
      (∃ places contents,
        Drawn run (fun c => ∃ content, Contributes source c content) (Contributes source)
          places contents ∧
        ofSite source s = joined contents) ∧
      ∀ (other : Node) (above' below' : List Node) (t : Site), other.isError = false →
        other.children = above' ++ run ++ t.node :: below' →
        above'.getLast? = above.getLast? →
        (Site.children other)[(above' ++ run).length]? = some t →
        ofSite source t = ofSite source s := by
  rw [Site.getElem?_children, Option.map_eq_some_iff] at place
  obtain ⟨c, hc, rfl⟩ := place
  obtain ⟨above, run, hcut, h⟩ := exists_isRun source (parent.children.take i)
  have hlt : i < parent.children.length := (List.getElem?_eq_some_iff.mp hc).1
  have hchildren : parent.children = above ++ run ++ c :: parent.children.drop (i + 1) := by
    rw [← hcut, ← (List.getElem?_eq_some_iff.mp hc).2, ← List.drop_eq_getElem_cons hlt,
      List.take_append_drop]
  have hlength : (above ++ run).length = i := by rw [← hcut, List.length_take_of_le (Nat.le_of_lt hlt)]
  have hown := h.ofSite_eq (s := ⟨c, parent.isError, (parent.children.take i).reverse⟩) readable
    (by rw [hcut])
  obtain ⟨places, hdrawn⟩ := contents_drawn source run
  refine ⟨above, run, _, hchildren, hlength, h, ⟨places, _, hdrawn, hown⟩, ?_⟩
  intro other above' below' t readable' hother hlast place'
  rw [Site.getElem?_children, Option.map_eq_some_iff] at place'
  obtain ⟨d, -, rfl⟩ := place'
  have h' : IsRun source above' run := ⟨h.within, fun e he => h.ended e (hlast ▸ he)⟩
  rw [hown]
  exact h'.ofSite_eq readable' (by rw [hother, List.take_left])

namespace MixedRun

/-- A structure below a comment and two attributes, of which only one is about documentation. -/
def source : Utf8.Bytes :=
  Utf8.encode "fn f();\n/// a\n#[derive(Debug)]\n#[doc = \"b\"]\nstruct S;\n"

private abbrev node := Node.ofRange source
private abbrev token := Node.token source

def function : Node := node "function_signature_item" none 0 7 [
  token "fn" 0 2, node "identifier" (some "name") 3 4 [],
  node "parameters" (some "parameters") 4 6 [token "(" 4 5, token ")" 5 6], token ";" 6 7]

def comment : Node := node "line_comment" none 8 14 [
  token "//" 8 10, node "outer_doc_comment_marker" (some "outer") 10 11 [],
  node "doc_comment" (some "doc") 11 14 []]

def derive : Node := node "attribute_item" none 14 30 [
  token "#" 14 15, token "[" 15 16,
  node "attribute" none 16 29 [
    node "identifier" none 16 22 [],
    node "token_tree" (some "arguments") 22 29 [
      token "(" 22 23, node "identifier" none 23 28 [], token ")" 28 29]],
  token "]" 29 30]

def docAttribute : Node := node "attribute_item" none 31 43 [
  token "#" 31 32, token "[" 32 33,
  node "attribute" none 33 42 [
    node "identifier" none 33 36 [], token "=" 37 38,
    node "string_literal" (some "value") 39 42 [
      token "\"" 39 40, node "string_content" none 40 41 [], token "\"" 41 42]],
  token "]" 42 43]

def dataType : Node := node "struct_item" none 44 53 [
  token "struct" 44 50, node "type_identifier" (some "name") 51 52 [], token ";" 52 53]

def root : Node :=
  node "source_file" none 0 54 [function, comment, derive, docAttribute, dataType]

def site : Site := ⟨dataType, false, [docAttribute, derive, comment, function]⟩

theorem documented : ofSite source site = some "a\nb" := by decide +kernel

/-- The comment and the second attribute make the documentation. -/
theorem run_documents : root.isError = false ∧ (Site.children root)[4]? = some site ∧
    ∃ above run below, root.children = above ++ run ++ dataType :: below ∧
      (above ++ run).length = 4 ∧ IsRun source above run ∧
      ∃ places contents,
        Drawn run (fun c => ∃ content, Contributes source c content) (Contributes source)
          places contents ∧
        some "a\nb" = joined contents := by
  have place : (Site.children root)[4]? = some site := rfl
  obtain ⟨above, run, below, hchildren, hlength, h, ⟨places, contents, hdrawn, hjoined⟩, -⟩ :=
    documentation_is_run_above source rfl place
  exact ⟨rfl, place, above, run, below, hchildren, hlength, h, places, contents, hdrawn,
    documented.symm.trans hjoined⟩

end MixedRun
end DocComment
end RustOutline
