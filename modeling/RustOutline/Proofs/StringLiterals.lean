import Mathlib.Data.List.TakeWhile
import RustOutline.DocComment

/-! String literals and what stands in them. A literal ends with as many hashes as come before its
first quote, so its content is all that stands between that quote and the last one. -/
namespace RustOutline.DocComment
open Text

variable {hashes hashes' : Nat} {content content' : List Char}

/-- A content in quotes, with hashes around them. -/
def quoted (hashes : Nat) (content : List Char) : List Char :=
  List.replicate hashes '#' ++ '"' :: (content ++ '"' :: List.replicate hashes '#')

/-- A string literal; an `r` comes first if it is raw. -/
def literal (raw : Bool) (hashes : Nat) (content : List Char) : List Char :=
  if raw then 'r' :: quoted hashes content else quoted hashes content

def afterRaw : List Char → List Char
  | 'r' :: cs => cs
  | cs => cs

/-- The content between the first quote and the last one, if the hashes around them are the same. -/
def content? (cs : List Char) : Option (List Char) :=
  let closing := '"' :: cs.takeWhile (· == '#')
  match cs.dropWhile (· == '#') with
  | '"' :: rest =>
    if closing.isSuffixOf rest then some (rest.take (rest.length - closing.length)) else none
  | _ => none

theorem unquote_eq (cs : List Char) :
    unquote cs = ((content? (afterRaw (trim cs))).map trim).getD (trim cs) := by
  have hraw : unquote cs = match (afterRaw (trim cs)).dropWhile (· == '#') with
      | '"' :: rest =>
        if ('"' :: (afterRaw (trim cs)).takeWhile (· == '#')).isSuffixOf rest then
          trim (rest.take (rest.length - ('"' :: (afterRaw (trim cs)).takeWhile (· == '#')).length))
        else trim cs
      | _ => trim cs := rfl
  rw [hraw, content?]
  split
  · split <;> rfl
  · rfl

theorem content?_quoted (hashes : Nat) (content : List Char) :
    content? (quoted hashes content) = some content := by
  have hopening : (quoted hashes content).takeWhile (· == '#') = List.replicate hashes '#' := by
    rw [quoted, List.takeWhile_append_of_pos (by simp)]
    simp
  have hrest : (quoted hashes content).dropWhile (· == '#') =
      '"' :: (content ++ '"' :: List.replicate hashes '#') := by
    rw [quoted, List.dropWhile_append_of_pos (by simp)]
    simp
  simp [content?, hopening, hrest]

theorem exists_quoted_of_content? {cs : List Char} (h : content? cs = some content) :
    ∃ hashes, cs = quoted hashes content := by
  dsimp only [content?] at h
  split at h
  · next rest hrest =>
    split at h
    · next hsuffix =>
      obtain ⟨body, hbody⟩ := List.isSuffixOf_iff_suffix.mp hsuffix
      obtain rfl : body = content := by simpa [← hbody] using h
      have hhashes : cs.takeWhile (· == '#') =
          List.replicate (cs.takeWhile (· == '#')).length '#' := by
        refine List.eq_replicate_of_mem fun c hc => ?_
        simpa using List.mem_takeWhile_imp hc
      refine ⟨(cs.takeWhile (· == '#')).length, ?_⟩
      rw [quoted, ← hhashes, hbody, ← hrest, List.takeWhile_append_dropWhile]
    · cases h
  · cases h

theorem quoted_inj (h : quoted hashes content = quoted hashes' content') :
    hashes = hashes' ∧ content = content' := by
  have hcontent : content = content' := by
    have hfirst := content?_quoted hashes content
    rw [h, content?_quoted] at hfirst
    exact (Option.some.inj hfirst).symm
  have hlength := congrArg List.length h
  simp only [quoted, List.length_append, List.length_cons, List.length_replicate, hcontent]
    at hlength
  exact ⟨by omega, hcontent⟩

theorem afterRaw_literal (raw : Bool) (hashes : Nat) (content : List Char) :
    afterRaw (literal raw hashes content) = quoted hashes content := by
  cases raw with
  | true => rfl
  | false => cases hashes <;> rfl

theorem exists_literal_of_afterRaw {cs : List Char} (h : afterRaw cs = quoted hashes content) :
    ∃ raw, cs = literal raw hashes content := by
  unfold afterRaw at h
  split at h
  · exact ⟨true, congrArg ('r' :: ·) h⟩
  · exact ⟨false, h⟩

theorem literal_inj {raw raw' : Bool}
    (h : literal raw hashes content = literal raw' hashes' content') :
    raw = raw' ∧ hashes = hashes' ∧ content = content' := by
  have hquoted : quoted hashes content = quoted hashes' content' := by
    rw [← afterRaw_literal raw, h, afterRaw_literal]
  obtain ⟨rfl, rfl⟩ := quoted_inj hquoted
  have hlength := congrArg List.length h
  cases raw <;> cases raw' <;> simp_all [literal]

theorem usable_literal (raw : Bool) (hashes : Nat) (content : List Char) :
    Usable (literal raw hashes content) := by
  have hquoted : Usable (quoted hashes content) := by
    cases hashes with
    | zero =>
      exact ⟨⟨'"', rfl, by decide⟩, '"', by simp [quoted, List.getLast?_cons], by decide⟩
    | succ n =>
      have hlast : (List.replicate (n + 1) '#').getLast? = some '#' := by
        rw [List.replicate_succ', List.getLast?_concat]
      exact ⟨⟨'#', rfl, by decide⟩, '#',
        by simp [quoted, List.getLast?_append, List.getLast?_cons, hlast], by decide⟩
  cases raw with
  | true =>
    obtain ⟨c, hc, hstop⟩ := hquoted.stop
    exact ⟨⟨'r', rfl, by decide⟩, c, by simp [literal, List.getLast?_cons, hc], hstop⟩
  | false => exact hquoted

theorem unquote_of_literal {cs : List Char} {raw : Bool}
    (h : trim cs = literal raw hashes content) : unquote cs = trim content := by
  rw [unquote_eq, h, afterRaw_literal, content?_quoted]
  rfl

theorem unquote_of_not_literal {cs : List Char}
    (h : ∀ raw hashes content, trim cs ≠ literal raw hashes content) : unquote cs = trim cs := by
  rw [unquote_eq]
  cases hcontent : content? (afterRaw (trim cs)) with
  | none => rfl
  | some content =>
    obtain ⟨hashes, hquoted⟩ := exists_quoted_of_content? hcontent
    obtain ⟨raw, hliteral⟩ := exists_literal_of_afterRaw hquoted
    exact absurd hliteral (h raw hashes content)

/-- Literals are unquoted exactly. Of a literal the trimmed content is left, whatever the content is
and whatever blanks stand around the literal; any other text is only trimmed. No text can be taken
for a literal in two ways. -/
theorem literals_unquoted :
    (∀ (raw : Bool) (hashes : Nat) (content before after : List Char),
      before.all isBlank = true → after.all isBlank = true →
      unquote (before ++ literal raw hashes content ++ after) = trim content) ∧
    (∀ cs : List Char, (∀ raw hashes content, trim cs ≠ literal raw hashes content) →
      unquote cs = trim cs) ∧
    ∀ (raw raw' : Bool) (hashes hashes' : Nat) (content content' : List Char),
      literal raw hashes content = literal raw' hashes' content' →
      raw = raw' ∧ hashes = hashes' ∧ content = content' := by
  refine ⟨fun raw hashes content before after hbefore hafter => ?_,
    fun cs => unquote_of_not_literal, fun raw raw' hashes hashes' content content' => literal_inj⟩
  exact unquote_of_literal ((usable_literal raw hashes content).trim_surrounded hbefore hafter)

/-- A content that looks like the end of its literal, and a text that breaks off. -/
theorem misleading_content_unquoted :
    unquote " r##\"a\"# b\"##\n".toList = "a\"# b".toList ∧
    (∀ raw hashes content, "r##\"a\"# b\"##".toList = literal raw hashes content →
      true = raw ∧ 2 = hashes ∧ "a\"# b".toList = content) ∧
    (∀ raw hashes content, trim " r##\"a\"#".toList ≠ literal raw hashes content) ∧
    unquote " r##\"a\"#".toList = "r##\"a\"#".toList := by
  have hother : ∀ raw hashes content, trim " r##\"a\"#".toList ≠ literal raw hashes content := by
    intro raw hashes content h
    have hquoted : "##\"a\"#".toList = quoted hashes content := by
      rw [← afterRaw_literal raw, ← h]
      decide
    have hnone : content? "##\"a\"#".toList = none := by decide
    rw [hquoted, content?_quoted] at hnone
    cases hnone
  obtain ⟨hliteral, hplain, hunique⟩ := literals_unquoted
  refine ⟨?_, fun raw hashes content => ?_, hother, hplain _ hother⟩
  · exact hliteral true 2 "a\"# b".toList " ".toList "\n".toList (by decide) (by decide)
  · exact hunique true raw 2 hashes "a\"# b".toList content

end RustOutline.DocComment
