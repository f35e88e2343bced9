import Mathlib.Data.List.TakeWhile
import RustOutline.Outline.Diagnostic
import RustOutline.Proofs.ConcreteTree

/-! Snippets in diagnostics are short, stand on one line and always exist. A trimmed text that is not
empty has a first line, and since every line break is blank, that line does not end before it has
begun; so nothing is quoted of blank regions only. -/
namespace RustOutline
open Text

namespace Text
variable {cs line : List Char} {rest : List (List Char)} {c : Char}

theorem isBlank_of_isBreak (h : isBreak c = true) : isBlank c = true := by
  simp only [isBreak, isBlank, Bool.or_eq_true, Bool.and_eq_true, decide_eq_true_eq,
    beq_iff_eq] at h ⊢
  omega

/-- Display lines: each break ends one, a carriage return and a newline together are one break, and
after the last break there is a line only if something follows. -/
def displayLines : List Char → List (List Char)
  | [] => []
  | '\r' :: '\n' :: cs => [] :: displayLines cs
  | c :: cs =>
    if isBreak c then [] :: displayLines cs
    else match displayLines cs with
      | [] => [[c]]
      | l :: ls => (c :: l) :: ls

theorem displayLines_eq_cons (h : cs ≠ []) : ∃ rest, displayLines cs = firstLine cs :: rest := by
  fun_induction displayLines cs with
  | case1 => exact absurd rfl h
  | case2 cs => exact ⟨displayLines cs, by simp [firstLine, isBreak]⟩
  | case3 c cs _ hbreak => exact ⟨displayLines cs, by simp [firstLine, hbreak]⟩
  | case4 c cs _ hbreak hlines ih =>
    -- Only the empty text has no lines.
    have hcs : cs = [] := by
      by_contra hne
      obtain ⟨rest, hrest⟩ := ih hne
      simp [hlines] at hrest
    exact ⟨[], by simp [firstLine, hbreak, hcs]⟩
  | case5 c cs _ hbreak l ls hlines ih =>
    have hcs : cs ≠ [] := by
      rintro rfl
      simp [displayLines] at hlines
    obtain ⟨rest, hrest⟩ := ih hcs
    obtain ⟨rfl, -⟩ := List.cons.inj (hlines.symm.trans hrest)
    exact ⟨ls, by simp [firstLine, hbreak]⟩

-- Before a break there is a line, if only an empty one; after the last break there need not be one.
example : displayLines "\r\n\u2028b\x85".toList = [[], [], "b".toList] := by decide

theorem eq_firstLine (h : displayLines cs = line :: rest) : line = firstLine cs := by
  have hcs : cs ≠ [] := by
    rintro rfl
    cases h
  obtain ⟨rest', hrest⟩ := displayLines_eq_cons hcs
  exact (List.cons.inj (h.symm.trans hrest)).1

theorem not_isBreak_of_mem_firstLine (h : c ∈ firstLine cs) : isBreak c = false := by
  simpa using List.mem_takeWhile_imp h

theorem firstLine_trim_eq_nil_iff : firstLine (trim cs) = [] ↔ cs.all isBlank = true := by
  rw [← trim_eq_nil_iff]
  constructor
  · intro hline
    by_contra hne
    obtain ⟨c, hhead, hblank⟩ := (usable_trim hne).start
    obtain ⟨tail, htrim⟩ := List.head?_eq_some_iff.mp hhead
    have hbreak : isBreak c = false :=
      Bool.eq_false_iff.mpr fun h => by simp [isBlank_of_isBreak h] at hblank
    simp [htrim, firstLine, hbreak] at hline
  · intro hnil
    rw [hnil]
    rfl

end Text

/-- What a message quotes of a text: nothing if trimming leaves nothing, and else the first display
line of what is left, or the start of that line and dots if it has more than forty characters. Where
something is left but has no lines there would be no snippet. -/
inductive SnippetOf (text : List Char) : List Char → Prop
  | nothing (blank : trim text = []) : SnippetOf text []
  | line {line : List Char} {rest : List (List Char)}
      (lines : displayLines (trim text) = line :: rest) (fits : line.length ≤ 40) :
      SnippetOf text line
  | start {line : List Char} {rest : List (List Char)}
      (lines : displayLines (trim text) = line :: rest) (long : 40 < line.length) :
      SnippetOf text (line.take 37 ++ "...".toList)

namespace SnippetOf
variable {text snippet : List Char}

theorem length_le (h : SnippetOf text snippet) : snippet.length ≤ 40 := by
  cases h with
  | nothing _ => simp
  | line _ fits => exact fits
  | start _ long =>
    have hdots : "...".toList.length = 3 := by decide
    rw [List.length_append, List.length_take, hdots]
    omega

theorem not_isBreak (h : SnippetOf text snippet) : ∀ c ∈ snippet, isBreak c = false := by
  cases h with
  | nothing _ => simp
  | line lines _ =>
    intro c hc
    rw [eq_firstLine lines] at hc
    exact not_isBreak_of_mem_firstLine hc
  | start lines _ =>
    intro c hc
    rw [eq_firstLine lines] at hc
    rcases List.mem_append.mp hc with hc | hc
    · exact not_isBreak_of_mem_firstLine (List.mem_of_mem_take hc)
    · obtain rfl : c = '.' := by simpa using hc
      decide

theorem eq_nil_iff (h : SnippetOf text snippet) : snippet = [] ↔ text.all isBlank = true := by
  cases h with
  | nothing blank => simpa using trim_eq_nil_iff.mp blank
  | line lines _ => rw [eq_firstLine lines, firstLine_trim_eq_nil_iff]
  | @start line rest lines long =>
    have hline : line ≠ [] := List.ne_nil_of_length_pos (by omega)
    rw [← firstLine_trim_eq_nil_iff, ← eq_firstLine lines]
    simp [hline]

end SnippetOf

namespace Node
variable {source : Utf8.Bytes} {n : Node}

theorem snippet_eq (source : Utf8.Bytes) (n : Node) :
    n.snippet source =
      let line := firstLine (trim (n.text source).toList)
      if 40 < line.length then line.take 37 ++ "...".toList else line := rfl

theorem snippetOf_snippet (source : Utf8.Bytes) (n : Node) :
    SnippetOf (n.text source).toList (n.snippet source) := by
  by_cases hblank : trim (n.text source).toList = []
  · have hnothing : n.snippet source = [] := by simp [snippet_eq, hblank, firstLine]
    rw [hnothing]
    exact .nothing hblank
  · obtain ⟨rest, hlines⟩ := displayLines_eq_cons hblank
    rw [snippet_eq]
    dsimp only
    split
    · next long => exact .start hlines long
    · next fits => exact .line hlines (Nat.le_of_not_lt fits)

theorem eq_snippet {text : List Char} (h : SnippetOf (n.text source).toList text) :
    text = n.snippet source := by
  rw [snippet_eq]
  cases h with
  | nothing blank => simp [blank, firstLine]
  | line lines fits => simp [← eq_firstLine lines, Nat.not_lt.mpr fits]
  | start lines long => simp [← eq_firstLine lines, long]

/-- The message says no more than that there is an error only if there is nothing to quote. -/
theorem message_unreadable_eq_iff :
    (n.unreadable source).message = "Syntax error" ↔ n.snippet source = [] := by
  have hlonger : "Syntax error near `" ++ String.ofList (n.snippet source) ++ "`" ≠
      "Syntax error" := by
    intro hsame
    have hlength := congrArg String.length hsame
    have hbare : "Syntax error".length < "Syntax error near `".length := by decide
    rw [String.length_append, String.length_append] at hlength
    omega
  rw [← List.isEmpty_iff, unreadable, Diagnostic.atNode]
  dsimp only
  split
  · next hempty => exact iff_of_true rfl hempty
  · next hquoted => exact iff_of_false hlonger hquoted

end Node

/-- Snippets are safe to show: a node of any source has exactly one, of at most forty characters and
without a line break. It is empty, and the message bare, if and only if the node's text is blank. -/
theorem snippet_is_short_line (source : Utf8.Bytes) (n : Node) :
    (∀ text, SnippetOf (n.text source).toList text ↔ text = n.snippet source) ∧
    (n.snippet source).length ≤ 40 ∧
    (∀ c ∈ n.snippet source, isBreak c = false) ∧
    (n.snippet source = [] ↔ (n.text source).toList.all isBlank = true) ∧
    ((n.unreadable source).message = "Syntax error" ↔
      (n.text source).toList.all isBlank = true) := by
  have hsnippet := n.snippetOf_snippet source
  refine ⟨fun text => ⟨Node.eq_snippet, ?_⟩, hsnippet.length_le, hsnippet.not_isBreak,
    hsnippet.eq_nil_iff, ?_⟩
  · intro htext
    rw [htext]
    exact hsnippet
  · rw [Node.message_unreadable_eq_iff, hsnippet.eq_nil_iff]

namespace UnreadableSum

/-- An unreadable region of two lines, of which the first is too long to be quoted in full. -/
def source : Utf8.Bytes :=
  Utf8.encode "\n  let total = first + second + third + fourth\r\n  )\n"

def region : Node := Node.ofRange source "ERROR" none 0 52 []

theorem text_eq : (region.text source).toList =
    "\n  let total = first + second + third + fourth\r\n  )\n".toList := by decide +kernel

theorem lines_eq : displayLines (trim (region.text source).toList) =
    ["let total = first + second + third + fourth".toList, "  )".toList] := by
  rw [text_eq]
  decide +kernel

theorem first_line_shortened :
    region.snippet source = "let total = first + second + third + ...".toList ∧
      (region.snippet source).length ≤ 40 ∧
      (∀ c ∈ region.snippet source, isBreak c = false) ∧
      (region.unreadable source).message ≠ "Syntax error" := by
  have hstart : SnippetOf (region.text source).toList
      "let total = first + second + third + ...".toList := .start lines_eq (by decide)
  have hcontent : (region.text source).toList.all isBlank = false := by
    rw [text_eq]
    decide +kernel
  obtain ⟨hunique, hshort, hbreaks, -, hmessage⟩ := snippet_is_short_line source region
  refine ⟨((hunique _).mp hstart).symm, hshort, hbreaks, fun hbare => ?_⟩
  rw [hmessage.mp hbare] at hcontent
  cases hcontent

end UnreadableSum
end RustOutline
