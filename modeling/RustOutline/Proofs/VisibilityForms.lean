import Mathlib.Data.List.Basic
import RustOutline.Visibility

/-! Visibility does not depend on blanks, and what is rendered is classified as before. The narrow
forms are looked for anywhere in a modifier, so a path might hold one of them; but then the modifier
that it was read from held it too. -/
namespace RustOutline

namespace Text
variable {needle text before after : List Char}

/-- A text is cut by the first occurrence of another in it. -/
structure FirstCut (needle text before after : List Char) : Prop where
  cut : text = before ++ needle ++ after
  first : ∀ earlier rest, text = earlier ++ needle ++ rest → before.length ≤ earlier.length

theorem exists_firstCut (h : afterFirst? needle text = some after) :
    ∃ before, FirstCut needle text before after := by
  induction text with
  | nil =>
    obtain ⟨hempty, rfl⟩ : needle = [] ∧ [] = after := by simpa [afterFirst?] using h
    exact ⟨[], by simp [hempty], fun _ _ _ => Nat.zero_le _⟩
  | cons c cs ih =>
    rw [afterFirst?] at h
    split at h
    · next hstart =>
      obtain ⟨rest, hrest⟩ := List.isPrefixOf_iff_prefix.mp hstart
      obtain rfl : rest = after := by simpa [← hrest] using h
      exact ⟨[], hrest.symm, fun _ _ _ => Nat.zero_le _⟩
    · next hstart =>
      obtain ⟨before, hcut, hfirst⟩ := ih h
      refine ⟨c :: before, by rw [hcut]; rfl, fun earlier rest heq => ?_⟩
      -- The other text is no start of this one, so any occurrence leaves out the first character.
      cases earlier with
      | nil => exact absurd (List.isPrefixOf_iff_prefix.mpr ⟨rest, heq.symm⟩) hstart
      | cons d earlier =>
        have hrest : cs = earlier ++ needle ++ rest := (List.cons.inj heq).2
        exact Nat.succ_le_succ (hfirst earlier rest hrest)

theorem afterFirst?_append (needle after : List Char) :
    afterFirst? needle (needle ++ after) = some after := by
  cases needle with
  | nil => cases after <;> simp [afterFirst?]
  | cons c cs => simp [afterFirst?]

/-- What stands before the first of the characters that end a scan. -/
theorem takeWhile_ne_append {c : Char} (h : c ∉ before) (after : List Char) :
    (before ++ c :: after).takeWhile (· != c) = before := by
  have hall : ∀ d ∈ before, (d != c) = true := by
    intro d hd
    simpa using ne_of_mem_of_not_mem hd h
  rw [List.takeWhile_append_of_pos hall]
  simp

theorem squeeze_append (cs ds : List Char) : squeeze (cs ++ ds) = squeeze cs ++ squeeze ds :=
  List.filter_append cs ds

end Text

namespace Visibility
open Text

variable {t : String} {path : List Char}

theorem ofText_congr {u : String} (h : squeeze t.toList = squeeze u.toList) :
    ofText t = ofText u := by
  unfold ofText
  rw [h]

/-- A modifier with a path, if it holds none of the forms that are looked for first. -/
theorem ofText_eq_within (h : squeeze t.toList = "pub(in".toList ++ path ++ [')'])
    (hclose : ')' ∉ path) (hcrate : ¬ "pub(crate)".toList <:+: squeeze t.toList)
    (hsuper : ¬ "pub(super)".toList <:+: squeeze t.toList) :
    ofText t = .within (String.ofList path) := by
  have hafter : afterFirst? "pub(in".toList (squeeze t.toList) = some (path ++ [')']) := by
    rw [h, List.append_assoc, afterFirst?_append]
  unfold ofText
  simp only [occursIn_iff, hcrate, hsuper, if_false, hafter, takeWhile_ne_append hclose]

theorem exists_afterFirst?_of_within {path : String} (h : ofText t = .within path) :
    ¬ "pub(crate)".toList <:+: squeeze t.toList ∧ ¬ "pub(super)".toList <:+: squeeze t.toList ∧
      ∃ after, afterFirst? "pub(in".toList (squeeze t.toList) = some after ∧
        path = String.ofList (after.takeWhile (· != ')')) := by
  simp only [← occursIn_iff]
  dsimp only [ofText] at h
  split at h
  · cases h
  split at h
  · cases h
  split at h
  · next hcrate hsuper _ after hafter =>
    exact ⟨hcrate, hsuper, after, hafter, (within.inj h).symm⟩
  · split at h <;> cases h

/-- Where only one parenthesis opens, nothing but what follows it can follow `pub(`. -/
theorem starts_of_infix {form rest : List Char} (h : '(' ∉ rest)
    (hform : "pub(".toList ++ form <:+: "pub(".toList ++ rest) : form <+: rest := by
  obtain ⟨before, after, heq⟩ := hform
  have hsplit : "pub".toList ++ '(' :: rest =
      (before ++ "pub".toList) ++ '(' :: (form ++ after) := by simpa using heq.symm
  obtain ⟨-, -, hrest⟩ := (List.append_cons_inj_of_notMem (by decide) h).mp hsplit
  exact ⟨after, hrest.symm⟩

/-- A path without parentheses makes no other form of its modifier. -/
theorem not_infix_of_path {c : Char} (form : List Char) (hopen : '(' ∉ path) (hc : c ≠ 'i') :
    ¬ "pub(".toList ++ c :: form <:+: "pub(in".toList ++ path ++ [')'] := by
  intro hinfix
  have hrest : '(' ∉ "in".toList ++ path ++ [')'] := by simpa using hopen
  obtain ⟨after, hafter⟩ := starts_of_infix hrest (by simpa using hinfix)
  exact hc (List.cons.inj hafter).1

/-- What is read off a modifier that closes is rendered as a modifier of the same visibility. -/
theorem ofText_render_ofText
    (h : ∀ before after, FirstCut "pub(in".toList (squeeze t.toList) before after → ')' ∈ after) :
    ofText (ofText t).render = ofText t := by
  cases hv : ofText t with
  | inherited | crate | super | everywhere => decide
  | within path =>
    obtain ⟨hcrate, hsuper, after, hafter, rfl⟩ := exists_afterFirst?_of_within hv
    obtain ⟨before, hcut⟩ := exists_firstCut hafter
    obtain ⟨path, rest, rfl, hclose⟩ := List.eq_append_cons_of_mem (h before after hcut)
    rw [takeWhile_ne_append hclose]
    -- The rendered form without blanks is a part of the modifier, which holds no other form.
    have hpart : "pub(in".toList ++ path ++ [')'] <:+: squeeze t.toList :=
      ⟨before, rest, by rw [hcut.cut]; simp⟩
    have hpath : squeeze path = path := by
      rw [squeeze, List.filter_eq_self]
      intro c hc
      have hmem : c ∈ squeeze t.toList := by
        apply hpart.subset
        simp [hc]
      exact (List.mem_filter.mp hmem).2
    have hsqueeze : squeeze (render (.within (String.ofList path))).toList =
        "pub(in".toList ++ path ++ [')'] := by
      have hrender : (render (.within (String.ofList path))).toList =
          "pub(in ".toList ++ path ++ [')'] := by simp [render]
      rw [hrender, squeeze_append, squeeze_append, hpath]
      rfl
    apply ofText_eq_within hsqueeze hclose
    · rw [hsqueeze]
      exact fun hform => hcrate (hform.trans hpart)
    · rw [hsqueeze]
      exact fun hform => hsuper (hform.trans hpart)

/-- Only what is not blank in a modifier counts; a path without parentheses comes out as it stands;
and, unless a modifier breaks off inside a path, what is rendered is classified as before. -/
theorem classification_stable :
    (∀ t u : String, squeeze t.toList = squeeze u.toList → ofText t = ofText u) ∧
    (∀ t path : String, '(' ∉ path.toList → ')' ∉ path.toList →
      squeeze t.toList = "pub(in".toList ++ path.toList ++ [')'] → ofText t = .within path) ∧
    ∀ t : String,
      (∀ before after, FirstCut "pub(in".toList (squeeze t.toList) before after → ')' ∈ after) →
      ofText (ofText t).render = ofText t := by
  refine ⟨fun t u => ofText_congr, fun t path hopen hclose h => ?_, fun t => ofText_render_ofText⟩
  have hwithin : ofText t = .within (String.ofList path.toList) := by
    apply ofText_eq_within h hclose
    · rw [h]
      exact not_infix_of_path "rate)".toList hopen (by decide)
    · rw [h]
      exact not_infix_of_path "uper)".toList hopen (by decide)
  rwa [String.ofList_toList] at hwithin

-- A modifier that breaks off can be completed to another form.
example : ofText "pub(in pub(crate" = .within "pub(crate" ∧
    ofText (ofText "pub(in pub(crate").render = .crate := by decide

/-- Blanks inside a path, and a path that holds the start of another one. -/
theorem nested_path_stable :
    squeeze "pub( in a\t:: b )".toList = squeeze "pub(in a::b)".toList ∧
    ofText "pub( in a\t:: b )" = ofText "pub(in a::b)" ∧
    ofText "pub( in a\t:: b )" = .within "a::b" ∧
    (∀ before after, FirstCut "pub(in".toList (squeeze "pub(in pub(in a) b".toList) before after →
      ')' ∈ after) ∧
    ofText (ofText "pub(in pub(in a) b").render = ofText "pub(in pub(in a) b" := by
  have hsqueeze : squeeze "pub( in a\t:: b )".toList = squeeze "pub(in a::b)".toList := by decide
  have hclosed (before after : List Char)
      (hcut : FirstCut "pub(in".toList (squeeze "pub(in pub(in a) b".toList) before after) :
      ')' ∈ after := by
    have hwhole : squeeze "pub(in pub(in a) b".toList = "pub(in".toList ++ "pub(ina)b".toList := by
      decide
    have hstart : before = [] :=
      List.eq_nil_of_length_eq_zero (Nat.le_zero.mp (hcut.first [] _ hwhole))
    have hsame := hcut.cut
    rw [hstart, List.nil_append, hwhole] at hsame
    rw [← List.append_cancel_left hsame]
    decide
  obtain ⟨hblanks, hpath, hrender⟩ := classification_stable
  exact ⟨hsqueeze, hblanks _ _ hsqueeze, hpath _ "a::b" (by decide) (by decide) (by decide),
    hclosed, hrender _ hclosed⟩

end Visibility
end RustOutline
