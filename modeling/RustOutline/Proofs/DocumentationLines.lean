import Mathlib.Data.List.Forall2
import RustOutline.Proofs.DocumentationRun
import RustOutline.Proofs.LineDecoding

/-! Documentation by lines is the run of blank and `///` lines at the end of the complete lines above
an offset, each of them decoded by itself; what stands on the line of the offset has no say. Where the
siblings above a declaration show these lines, comment by comment, reading lines and reading siblings
give the same documentation. -/
namespace RustOutline.DocComment
open Text

def lineTexts (source : Utf8.Bytes) (offset : Nat) : List (List Char) :=
  (Utf8.completeLines (source.take offset)).map Utf8.decodeChars

/-- Neither blank nor a `///` line. -/
def EndsLineRun (line : List Char) : Prop :=
  line.all isBlank = false ∧ ¬ ∃ content, OuterLine line content

/-- The last lines of a list are a run, and the one before them, if there is one, ends it. -/
structure IsLineRun (above run : List (List Char)) : Prop where
  within : ∀ l ∈ run, ¬ EndsLineRun l
  ended : ∀ l, above.getLast? = some l → EndsLineRun l

/-- The siblings are line comments, one for each line that is not blank, in order and with its text up
to blanks around it. -/
def ShowLines (source : Utf8.Bytes) (siblings : List Node) (lines : List (List Char)) : Prop :=
  List.Forall₂ (fun c l => c.kind = "line_comment" ∧ trim (c.text source).toList = trim l)
    siblings (lines.filter (!·.all isBlank))

def lineRole (line : List Char) : Role :=
  if line.all isBlank then .silent
  else match outerLine? line with
    | some content => .doc content
    | none => .boundary

section Lines
variable {line content : List Char} {above run : List (List Char)}

theorem outerLine?_of_blank (h : line.all isBlank = true) : outerLine? line = none := by
  rw [outerLine?, trim_eq_nil_iff.mpr h]
  rfl

/-- Only the text between the blanks around it makes a `///` line. -/
theorem outerLine?_congr {other : List Char} (h : trim line = trim other) :
    outerLine? line = outerLine? other := by
  rw [outerLine?, outerLine?, h]

theorem lineRole_eq_doc : lineRole line = .doc content ↔ OuterLine line content := by
  rw [← outerLine?_eq_some, lineRole]
  split
  · next h => simp [outerLine?_of_blank h]
  · cases outerLine? line <;> simp

theorem lineRole_eq_boundary : lineRole line = .boundary ↔ EndsLineRun line := by
  simp only [EndsLineRun, ← outerLine?_eq_some, lineRole]
  split
  · next h => simp [h]
  · next h => cases outerLine? line <;> simp [h]

theorem lineRole_eq_silent : lineRole line = .silent ↔ line.all isBlank = true := by
  rw [lineRole]
  split
  · next h => simp only [h]
  · next h => cases outerLine? line <;> simp only [h, reduceCtorEq]

theorem linesAbove_eq_collect (ls : List (List Char)) :
    linesAbove ls = Role.collect (ls.map lineRole) := by
  induction ls with
  | nil => rfl
  | cons l ls ih =>
    rw [linesAbove, List.map_cons, ih, lineRole]
    simp only [List.isEmpty_iff, trim_eq_nil_iff]
    split
    · rfl
    · cases outerLine? l <;> rfl

theorem IsLineRun.boundary_not_mem (h : IsLineRun above run) : .boundary ∉ run.map lineRole := by
  intro hmem
  obtain ⟨l, hl, hrole⟩ := List.mem_map.mp hmem
  exact h.within l hl (lineRole_eq_boundary.mp hrole)

theorem IsLineRun.linesAbove_eq (h : IsLineRun above run) :
    linesAbove (above ++ run).reverse = (run.filterMap fun l => (lineRole l).content?).reverse := by
  rw [linesAbove_eq_collect, List.map_reverse, List.map_append,
    Role.collect_reverse h.boundary_not_mem, List.filterMap_map]
  · rfl
  · intro r hr
    rw [List.getLast?_map] at hr
    obtain ⟨l, hl, rfl⟩ := Option.map_eq_some_iff.mp hr
    exact lineRole_eq_boundary.mpr (h.ended l hl)

theorem lineContents_drawn (run : List (List Char)) :
    ∃ places, Drawn run (fun l => ∃ content, OuterLine l content) OuterLine places
      (run.filterMap fun l => (lineRole l).content?) := by
  apply Drawn.ofFilterMap
  intro l
  simp only [← lineRole_eq_doc]
  cases lineRole l with
  | doc content => exact .inr ⟨⟨content, rfl⟩, content, rfl, rfl⟩
  | silent => exact .inl ⟨by simp, rfl⟩
  | boundary => exact .inl ⟨by simp, rfl⟩

end Lines

section Offsets
variable {source : Utf8.Bytes} {offset : Nat} {above run : List (List Char)}

/-- The run at the end of the complete lines decides. -/
theorem IsLineRun.ofLines_eq (h : IsLineRun above run) (lines : lineTexts source offset = above ++ run) :
    ofLines source offset = joined (run.filterMap fun l => (lineRole l).content?) := by
  rw [ofLines, Utf8.completeLines_decodeChars, ← lineTexts, lines, h.linesAbove_eq, assemble_reverse]

theorem lineTexts_eq {first second : Nat} (le : first ≤ second)
    (sameLine : 0x0A ∉ slice source first second) : lineTexts source first = lineTexts source second := by
  have htake : source.take second = source.take first ++ slice source first second := by
    rw [slice, ← List.take_add, Nat.add_sub_cancel' le]
  rw [lineTexts, lineTexts, htake, Utf8.completeLines_append sameLine]

end Offsets

/-- Reading lines looks at the complete lines above the offset only, so all offsets on a line give the
same. What it finds are the contents of the `///` lines in the longest run of blank and `///` lines at
their end. Bytes may be malformed, and an offset may cut a character or lie beyond the end. -/
theorem documentation_of_complete_lines (source : Utf8.Bytes) {first second : Nat}
    (le : first ≤ second) (sameLine : 0x0A ∉ slice source first second) :
    ofLines source first = ofLines source second ∧
      ∃ above run places contents, lineTexts source first = above ++ run ∧
        lineTexts source second = above ++ run ∧ IsLineRun above run ∧
        Drawn run (fun l => ∃ content, OuterLine l content) OuterLine places contents ∧
        ofLines source first = joined contents := by
  obtain ⟨above, run, hlines, within, ended⟩ := exists_run EndsLineRun (lineTexts source first)
  have hrun : IsLineRun above run := ⟨within, ended⟩
  have hsecond : lineTexts source second = above ++ run := (lineTexts_eq le sameLine).symm.trans hlines
  obtain ⟨places, hdrawn⟩ := lineContents_drawn run
  have hfirst := hrun.ofLines_eq hlines
  exact ⟨hfirst.trans (hrun.ofLines_eq hsecond).symm, above, run, places, _, hlines, hsecond, hrun,
    hdrawn, hfirst⟩

namespace BrokenLine

/-- The lines `/// a` with the first two bytes of a longer sequence, a blank one, and `struct é;`. -/
def source : Utf8.Bytes :=
  Utf8.encode "fn f();\n/// a" ++ [0xE2, 0x82] ++ Utf8.encode "\n \t\nstruct é;"

theorem documented : ofLines source 27 = some "a\uFFFD" := by decide +kernel

/-- The first offset cuts `é` in two. -/
theorem line_documents : 27 ≤ 100 ∧ 0x0A ∉ slice source 27 100 ∧
    some "a\uFFFD" = ofLines source 100 ∧
      ∃ above run places contents, lineTexts source 27 = above ++ run ∧
        lineTexts source 100 = above ++ run ∧ IsLineRun above run ∧
        Drawn run (fun l => ∃ content, OuterLine l content) OuterLine places contents ∧
        some "a\uFFFD" = joined contents := by
  have le : 27 ≤ 100 := by decide
  have sameLine : 0x0A ∉ slice source 27 100 := by decide +kernel
  have h := documentation_of_complete_lines source le sameLine
  rw [documented] at h
  exact ⟨le, sameLine, h⟩

end BrokenLine

section Agreement
variable {source : Utf8.Bytes} {near : List Node} {above run : List (List Char)}

theorem role_eq_lineRole {c : Node} {l : List Char} (kind : c.kind = "line_comment")
    (text : trim (c.text source).toList = trim l) (h : l.all isBlank = false) :
    role source c = lineRole l := by
  rw [role, lineRole, outerLine?_congr text, kind, h]
  rfl

theorem ShowLines.contents_eq (h : ShowLines source near run) :
    (near.filterMap fun c => (role source c).content?) =
      run.filterMap fun l => (lineRole l).content? := by
  have hroles : near.map (role source) = (run.filter (!·.all isBlank)).map lineRole := by
    have hnotBlank : ∀ l ∈ run.filter (!·.all isBlank), l.all isBlank = false := by simp
    unfold ShowLines at h
    generalize run.filter (!·.all isBlank) = lines at h hnotBlank
    induction h with
    | nil => rfl
    | cons hc _ ih =>
      obtain ⟨hl, hlines⟩ := List.forall_mem_cons.mp hnotBlank
      rw [List.map_cons, List.map_cons, role_eq_lineRole hc.1 hc.2 hl, ih hlines]
  have hsilent : (run.filter (!·.all isBlank)).filterMap (fun l => (lineRole l).content?) =
      run.filterMap fun l => (lineRole l).content? := by
    rw [List.filterMap_filter]
    refine congrArg (List.filterMap · run) (funext fun l => ?_)
    cases hl : l.all isBlank with
    | true => rw [lineRole_eq_silent.mpr hl]; rfl
    | false => rfl
  have hcontents := congrArg (List.filterMap Role.content?) hroles
  rw [List.filterMap_map, List.filterMap_map] at hcontents
  exact hcontents.trans hsilent

theorem IsLineRun.contents_forall₂ (h : IsLineRun above run) :
    List.Forall₂ OuterLine (run.filter (!·.all isBlank))
      (run.filterMap fun l => (lineRole l).content?) := by
  have within := h.within
  clear h
  induction run with
  | nil => exact .nil
  | cons l run ih =>
    obtain ⟨hl, hrun⟩ := List.forall_mem_cons.mp within
    rw [← lineRole_eq_boundary] at hl
    cases hrole : lineRole l with
    | doc content =>
      have hblank : l.all isBlank = false := by
        rw [← Bool.not_eq_true, ← lineRole_eq_silent, hrole]
        simp
      rw [List.filter_cons_of_pos (by rw [hblank]; rfl), List.filterMap_cons_some (by rw [hrole]; rfl)]
      exact .cons (lineRole_eq_doc.mp hrole) (ih hrun)
    | silent =>
      have hblank := lineRole_eq_silent.mp hrole
      rw [List.filter_cons_of_neg (by simp [hblank]), List.filterMap_cons_none (by rw [hrole]; rfl)]
      exact ih hrun
    | boundary => exact absurd hrole hl

end Agreement

/-- Reading siblings and reading lines agree: if the run of siblings above a declaration shows the run
of lines above it, the documentation is the same in a region that could not be read as elsewhere. It
has the content of each line that is not blank. -/
theorem siblings_and_lines_agree {source : Utf8.Bytes} {parent region : Node} {i j : Nat} {s t : Site}
    {far near : List Node} {above run : List (List Char)}
    (readable : parent.isError = false) (place : (Site.children parent)[i]? = some s)
    (unreadable : region.isError = true) (place' : (Site.children region)[j]? = some t)
    (same : t.node.start = s.node.start)
    (siblings : parent.children.take i = far ++ near) (nodeRun : IsRun source far near)
    (lines : lineTexts source s.node.start = above ++ run) (lineRun : IsLineRun above run)
    (shown : ShowLines source near run) :
    ofSite source t = ofSite source s ∧
      ∃ contents, List.Forall₂ OuterLine (run.filter (!·.all isBlank)) contents ∧
        ofSite source s = joined contents := by
  rw [Site.getElem?_children, Option.map_eq_some_iff] at place place'
  obtain ⟨c, -, rfl⟩ := place
  obtain ⟨d, -, rfl⟩ := place'
  have hsiblings : ofSite source ⟨c, parent.isError, (parent.children.take i).reverse⟩ =
      joined (run.filterMap fun l => (lineRole l).content?) := by
    rw [nodeRun.ofSite_eq readable (by rw [siblings]), shown.contents_eq]
  have hlines : ofSite source ⟨d, region.isError, (region.children.take j).reverse⟩ =
      joined (run.filterMap fun l => (lineRole l).content?) := by
    rw [ofSite, unreadable, if_pos rfl, same, lineRun.ofLines_eq lines]
  exact ⟨hlines.trans hsiblings.symm, _, lineRun.contents_forall₂, hsiblings⟩

namespace SpacedComments

/-- Two comments with a blank line between them, above a structure: once in a file, and once in a region
that could not be read. -/
def source : Utf8.Bytes := Utf8.encode "fn f();\n/// a\r\n\n\t///b\nstruct S;"

private abbrev node := Node.ofRange source
private abbrev token := Node.token source

def function : Node := node "function_signature_item" none 0 7 [
  token "fn" 0 2, node "identifier" (some "name") 3 4 [],
  node "parameters" (some "parameters") 4 6 [token "(" 4 5, token ")" 5 6], token ";" 6 7]

/-- The line break belongs to the comment. -/
def comment (start stop : Nat) : Node := node "line_comment" none start stop [
  token "//" start (start + 2),
  node "outer_doc_comment_marker" (some "outer") (start + 2) (start + 3) [],
  node "doc_comment" (some "doc") (start + 3) stop []]

def dataType : Node := node "struct_item" none 22 31 [
  token "struct" 22 28, node "type_identifier" (some "name") 29 30 [], token ";" 30 31]

def children : List Node := [function, comment 8 15, comment 17 22, dataType]

def root : Node := node "source_file" none 0 31 children

def region : Node := node "ERROR" none 0 31 children

def site (underError : Bool) : Site :=
  ⟨dataType, underError, [comment 17 22, comment 8 15, function]⟩

def run : List (List Char) := ["/// a\r".toList, [], "\t///b".toList]

theorem documented : ofSite source (site false) = some "a\nb" := by decide +kernel

theorem agreement : (Site.children root)[3]? = some (site false) ∧
    (Site.children region)[3]? = some (site true) ∧
    lineTexts source 22 = ["fn f();".toList] ++ run ∧ IsLineRun ["fn f();".toList] run ∧
    IsRun source [function] [comment 8 15, comment 17 22] ∧
    ShowLines source [comment 8 15, comment 17 22] run ∧
    ofSite source (site true) = some "a\nb" := by
  have place : (Site.children root)[3]? = some (site false) := rfl
  have place' : (Site.children region)[3]? = some (site true) := rfl
  have lines : lineTexts source 22 = ["fn f();".toList] ++ run := by decide +kernel
  have lineRun : IsLineRun ["fn f();".toList] run := by
    constructor
    · simp only [← lineRole_eq_boundary]
      decide +kernel
    · simp only [← lineRole_eq_boundary]
      decide +kernel
  have nodeRun : IsRun source [function] [comment 8 15, comment 17 22] := by
    constructor
    · simp only [← role_eq_boundary]
      decide +kernel
    · simp only [← role_eq_boundary]
      decide +kernel
  have shown : ShowLines source [comment 8 15, comment 17 22] run := by
    unfold ShowLines
    decide +kernel
  have h := siblings_and_lines_agree (i := 3) rfl place rfl place' rfl rfl nodeRun lines lineRun shown
  exact ⟨place, place', lines, lineRun, nodeRun, shown, h.1.trans documented⟩

end SpacedComments
end RustOutline.DocComment
