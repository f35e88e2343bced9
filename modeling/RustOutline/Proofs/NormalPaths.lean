import RustOutline.Path

/-! Paths in normal form: reading gives nothing else, a leading home folder keeps it, and such a
path is read back from its own text. -/
namespace RustOutline.Path

/-- A component that names something and stands between two slashes. -/
structure IsComponent (part : String) : Prop where
  ne_empty : part ≠ ""
  ne_dot : part ≠ "."
  slash_not_mem : '/' ∉ part.toList

/-- At most two slashes, and then components only. -/
structure Normal (p : Path) : Prop where
  root : p.root ∈ ["", "/", "//"]
  parts : ∀ part ∈ p.parts, IsComponent part

theorem split_ne_nil (cs : List Char) : split cs ≠ [] := by
  fun_induction split cs <;> simp

theorem slash_not_mem_of_mem_split {cs part : List Char} (h : part ∈ split cs) : '/' ∉ part := by
  fun_induction split cs generalizing part with
  | case1 => simp_all
  | case2 cs ih =>
    obtain rfl | h := List.mem_cons.mp h
    · exact List.not_mem_nil
    · exact ih h
  | case3 c cs _ hnil => exact absurd hnil (split_ne_nil cs)
  | case4 c cs hc first rest hsplit ih =>
    rw [hsplit] at ih
    obtain rfl | h := List.mem_cons.mp h
    · have hfirst := ih List.mem_cons_self
      simp_all [eq_comm]
    · exact ih (List.mem_cons_of_mem _ h)

theorem isComponent_of_mem_partsOf {cs : List Char} {part : String} (h : part ∈ partsOf cs) :
    IsComponent part := by
  obtain ⟨hmem, hkept⟩ := List.mem_filter.mp h
  obtain ⟨chars, hsplit, rfl⟩ := List.mem_map.mp hmem
  obtain ⟨hempty, hdot⟩ : String.ofList chars ≠ "" ∧ String.ofList chars ≠ "." := by
    simpa using hkept
  exact ⟨hempty, hdot, by simpa using slash_not_mem_of_mem_split hsplit⟩

theorem rootOf_mem (cs : List Char) : rootOf cs ∈ ["", "/", "//"] := by
  unfold rootOf
  split <;> simp

theorem normal_ofText (s : String) : (ofText s).Normal :=
  ⟨rootOf_mem s.toList, fun _ h => isComponent_of_mem_partsOf h⟩

/-- Replacing a leading `~` keeps the normal form, whatever the home folder is. -/
theorem Normal.expandHome? {p q : Path} {homes : Homes} (hp : p.Normal)
    (h : p.expandHome? homes = some q) : q.Normal := by
  unfold Path.expandHome? at h
  split at h
  next first rest hroot hparts =>
    split at h
    next =>
      split at h
      next => cases h
      next folder _ =>
        split at h
        · cases h
        · cases h
          refine ⟨rootOf_mem _, fun part hpart => ?_⟩
          obtain hpart | hpart := List.mem_append.mp hpart
          · exact isComponent_of_mem_partsOf hpart
          · exact hp.parts part (hparts ▸ List.mem_cons_of_mem _ hpart)
    next => cases h; exact hp
  next => cases h; exact hp

theorem split_eq_splitOn (cs : List Char) : split cs = cs.splitOn '/' := by
  induction cs with
  | nil => rfl
  | cons c cs ih =>
    rw [split, ih, List.splitOn_cons_eq_if_modifyHead]
    by_cases hc : c = '/'
    · simp [hc]
    · obtain ⟨part, rest, hsplit⟩ := List.exists_cons_of_ne_nil (List.splitOn_ne_nil '/' cs)
      simp [hc, hsplit]

theorem split_intercalate {parts : List String} (hne : parts ≠ [])
    (h : ∀ part ∈ parts, '/' ∉ part.toList) :
    split ("/".intercalate parts).toList = parts.map String.toList := by
  have hplain : ∀ chars ∈ parts.map String.toList, '/' ∉ chars := by simpa using h
  rw [split_eq_splitOn, String.toList_intercalate]
  exact List.splitOn_intercalate '/' hplain (by simpa using hne)

theorem partsOf_slash (cs : List Char) : partsOf ('/' :: cs) = partsOf cs := by
  simp [partsOf, split]

theorem partsOf_intercalate {parts : List String} (h : ∀ part ∈ parts, IsComponent part) :
    partsOf ("/".intercalate parts).toList = parts := by
  cases parts with
  | nil => rfl
  | cons first rest =>
    have hslash : ∀ part ∈ first :: rest, '/' ∉ part.toList :=
      fun part hpart => (h part hpart).slash_not_mem
    have hkept : ∀ part ∈ first :: rest, (part != "" && part != ".") = true := by
      intro part hpart
      simp [(h part hpart).ne_empty, (h part hpart).ne_dot]
    have hparts : ((first :: rest).map String.toList).map String.ofList = first :: rest := by
      simp [Function.comp_def]
    rw [partsOf, split_intercalate (List.cons_ne_nil _ _) hslash, hparts,
      List.filter_eq_self.mpr hkept]

/-- A path in normal form does not go on with a slash after its root. -/
theorem head_intercalate_ne_slash {parts : List String} (h : ∀ part ∈ parts, IsComponent part) :
    ("/".intercalate parts).toList.head? ≠ some '/' := by
  cases parts with
  | nil => simp
  | cons first rest =>
    have hfirst := h first List.mem_cons_self
    obtain ⟨c, cs, hchars⟩ : ∃ c cs, first.toList = c :: cs :=
      List.exists_cons_of_ne_nil (by simpa using hfirst.ne_empty)
    have hc : c ≠ '/' := by
      rintro rfl
      exact hfirst.slash_not_mem (by simp [hchars])
    cases rest <;> simp [String.intercalate_cons_cons, hchars, hc]

theorem takeWhile_slash {cs : List Char} (h : cs.head? ≠ some '/') :
    cs.takeWhile (· == '/') = [] := by
  cases cs <;> simp_all

theorem rootOf_append {root : String} (hroot : root ∈ ["", "/", "//"]) {cs : List Char}
    (h : cs.head? ≠ some '/') : rootOf (root.toList ++ cs) = root := by
  obtain rfl | rfl | rfl : root = "" ∨ root = "/" ∨ root = "//" := by simpa using hroot
  all_goals simp [rootOf, takeWhile_slash h]

theorem partsOf_root_append {root : String} (hroot : root ∈ ["", "/", "//"]) (cs : List Char) :
    partsOf (root.toList ++ cs) = partsOf cs := by
  obtain rfl | rfl | rfl : root = "" ∨ root = "/" ∨ root = "//" := by simpa using hroot
  all_goals simp [partsOf_slash]

theorem Normal.ofText_text {p : Path} (h : p.Normal) : ofText p.text = p := by
  obtain ⟨root, parts⟩ := p
  unfold text
  split
  next hnone =>
    obtain ⟨rfl, rfl⟩ : root = "" ∧ parts = [] := by simpa using hnone
    rfl
  next =>
    have hhead := head_intercalate_ne_slash h.parts
    simp only [ofText, String.toList_append, rootOf_append h.root hhead,
      partsOf_root_append h.root, partsOf_intercalate h.parts]

theorem expandHome?_of_isAbsolute {p : Path} (h : p.isAbsolute) (homes : Homes) :
    p.expandHome? homes = some p := by
  have hroot : p.root ≠ "" := by simpa [isAbsolute] using h
  simp [Path.expandHome?, hroot]

/-- An absolute path is not written like the name of a stream. -/
theorem head_text_of_isAbsolute {p : Path} (hp : p.Normal) (h : p.isAbsolute) :
    p.text.toList.head? = some '/' := by
  have hroot : p.root ≠ "" := by simpa [isAbsolute] using h
  obtain h | h : p.root = "/" ∨ p.root = "//" := by simpa [hroot] using hp.root
  all_goals simp [text, h]

theorem exists_mem_split {c : Char} {cs : List Char} (h : c ∈ cs) (hc : c ≠ '/') :
    ∃ part ∈ split cs, c ∈ part := by
  fun_induction split cs with
  | case1 => cases h
  | case2 cs ih =>
    obtain ⟨part, hpart, hmem⟩ := ih (by simpa [hc] using h)
    exact ⟨part, List.mem_cons_of_mem _ hpart, hmem⟩
  | case3 c' cs _ hnil => exact absurd hnil (split_ne_nil cs)
  | case4 c' cs _ first rest hsplit ih =>
    obtain rfl | h := List.mem_cons.mp h
    · exact ⟨c :: first, List.mem_cons_self, List.mem_cons_self⟩
    · obtain ⟨part, hpart, hmem⟩ := ih h
      rw [hsplit] at hpart
      obtain rfl | hpart := List.mem_cons.mp hpart
      · exact ⟨c' :: part, List.mem_cons_self, List.mem_cons_of_mem _ hmem⟩
      · exact ⟨part, List.mem_cons_of_mem _ hpart, hmem⟩

theorem mem_intercalate {c : Char} {part : String} {parts : List String} (h : part ∈ parts)
    (hc : c ∈ part.toList) : c ∈ ("/".intercalate parts).toList := by
  induction parts with
  | nil => cases h
  | cons first rest ih =>
    cases rest with
    | nil =>
      obtain rfl := List.mem_singleton.mp h
      simpa using hc
    | cons second rest =>
      rw [String.intercalate_cons_cons, String.toList_append]
      obtain rfl | h := List.mem_cons.mp h
      · simp [hc]
      · exact List.mem_append_right _ (ih h)

/-- Reading a path loses no character but slashes and dots. -/
theorem mem_text_ofText {c : Char} {s : String} (h : c ∈ s.toList) (hslash : c ≠ '/')
    (hdot : c ≠ '.') : c ∈ (ofText s).text.toList := by
  obtain ⟨part, hpart, hmem⟩ := exists_mem_split h hslash
  have hkept : String.ofList part ∈ (ofText s).parts := by
    refine List.mem_filter.mpr ⟨List.mem_map_of_mem hpart, ?_⟩
    rw [Bool.and_eq_true, bne_iff_ne, bne_iff_ne]
    constructor
    · rintro hempty
      simp_all
    · intro hone
      have : part = ['.'] := by simpa using congrArg String.toList hone
      simp_all
  have hparts : (ofText s).parts.isEmpty = false := by
    cases hp : (ofText s).parts with
    | nil => simp [hp] at hkept
    | cons => rfl
  rw [text, hparts, Bool.and_false, if_neg (by decide), String.toList_append]
  exact List.mem_append_right _ (mem_intercalate hkept (by simpa using hmem))

end RustOutline.Path
