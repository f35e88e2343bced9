/-! Blank characters and trimming. Blank means Unicode white space and the four
information separators; zero-width characters are not blank. -/
namespace RustOutline.Text

/-- White space in the sense of every trimming function of the library. -/
def isBlank (c : Char) : Bool :=
  let n := c.toNat
  (9 ≤ n && n ≤ 13) || (28 ≤ n && n ≤ 32) || n == 0x85 || n == 0xA0 || n == 0x1680 ||
    (0x2000 ≤ n && n ≤ 0x200A) || n == 0x2028 || n == 0x2029 || n == 0x202F || n == 0x205F ||
    n == 0x3000

def trimStart (cs : List Char) : List Char := cs.dropWhile isBlank

def trimEnd (cs : List Char) : List Char := (cs.reverse.dropWhile isBlank).reverse

def trim (cs : List Char) : List Char := trimEnd (trimStart cs)

theorem exists_eq_trimEnd_append (cs : List Char) :
    ∃ blanks, cs = trimEnd cs ++ blanks ∧ ∀ c ∈ blanks, isBlank c = true := by
  refine ⟨(cs.reverse.takeWhile isBlank).reverse, ?_, fun c hc => ?_⟩
  · rw [trimEnd, ← List.reverse_append, List.takeWhile_append_dropWhile, List.reverse_reverse]
  · have hall : (cs.reverse.takeWhile isBlank).all isBlank = true := List.all_takeWhile
    exact List.all_eq_true.mp hall c (List.mem_reverse.mp hc)

theorem getLast?_trimEnd {cs : List Char} {c : Char} (h : (trimEnd cs).getLast? = some c) :
    isBlank c = false := by
  have hhead := List.head?_dropWhile_not isBlank cs.reverse
  rw [trimEnd, List.getLast?_reverse] at h
  simpa [h] using hhead

theorem trimEnd_eq_nil_iff {cs : List Char} : trimEnd cs = [] ↔ cs.all isBlank = true := by
  constructor
  · intro h
    obtain ⟨blanks, hcs, hblank⟩ := exists_eq_trimEnd_append cs
    rw [h, List.nil_append] at hcs
    rw [hcs]
    exact List.all_eq_true.mpr hblank
  · intro h
    cases hlast : (trimEnd cs).getLast? with
    | none => exact List.getLast?_eq_none_iff.mp hlast
    | some c =>
      obtain ⟨blanks, hcs, -⟩ := exists_eq_trimEnd_append cs
      have hmem : c ∈ cs := by
        rw [hcs]
        exact List.mem_append_left _ (List.mem_of_getLast? hlast)
      have hblank := List.all_eq_true.mp h c hmem
      rw [getLast?_trimEnd hlast] at hblank
      cases hblank

/-- Blank texts, and only these, have nothing left. -/
theorem trim_eq_nil_iff {cs : List Char} : trim cs = [] ↔ cs.all isBlank = true := by
  have hcut : cs.all isBlank = (trimStart cs).all isBlank := by
    have hall : (cs.takeWhile isBlank).all isBlank = true := List.all_takeWhile
    rw [trimStart, ← Bool.true_and ((cs.dropWhile isBlank).all isBlank), ← hall, ← List.all_append,
      List.takeWhile_append_dropWhile]
  rw [trim, trimEnd_eq_nil_iff, hcut]

/-- A text that can serve as a name: there is something in it, and no blank at either end. -/
structure Usable (cs : List Char) : Prop where
  start : ∃ c, cs.head? = some c ∧ isBlank c = false
  stop : ∃ c, cs.getLast? = some c ∧ isBlank c = false

theorem usable_trim {cs : List Char} (h : trim cs ≠ []) : Usable (trim cs) := by
  have hlast := List.getLast?_eq_some_getLast h
  refine ⟨⟨_, List.head?_eq_some_head h, ?_⟩, _, hlast, getLast?_trimEnd hlast⟩
  -- Trimming the end leaves the first character where it is.
  obtain ⟨blanks, hcut, -⟩ := exists_eq_trimEnd_append (trimStart cs)
  have hstart : (trimStart cs).head? = some ((trim cs).head h) := by
    rw [hcut, List.head?_append, ← trim, List.head?_eq_some_head h]
    rfl
  have hhead := List.head?_dropWhile_not isBlank cs
  rw [← trimStart, hstart] at hhead
  simpa using hhead

theorem Usable.append {cs ds : List Char} (h : Usable cs) (h' : Usable ds) (middle : List Char) :
    Usable (cs ++ middle ++ ds) := by
  obtain ⟨c, hc, hstart⟩ := h.start
  obtain ⟨d, hd, hstop⟩ := h'.stop
  exact ⟨⟨c, by simp [hc], hstart⟩, d, by simp [List.getLast?_append, hd], hstop⟩

/-- Nothing but the blanks around a usable text is taken away. -/
theorem Usable.trim_surrounded {before cs after : List Char} (h : Usable cs)
    (hbefore : before.all isBlank = true) (hafter : after.all isBlank = true) :
    trim (before ++ cs ++ after) = cs := by
  obtain ⟨c, hc, hstart⟩ := h.start
  obtain ⟨d, hd, hstop⟩ := h.stop
  obtain ⟨rest, hcs⟩ := List.head?_eq_some_iff.mp hc
  obtain ⟨front, hds⟩ := List.getLast?_eq_some_iff.mp hd
  have hfirst : trimStart (before ++ cs ++ after) = cs ++ after := by
    rw [trimStart, List.append_assoc, List.dropWhile_append_of_pos (List.all_eq_true.mp hbefore),
      hcs, List.cons_append, List.dropWhile_cons_of_neg (by simp [hstart])]
  have hlast : trimEnd (cs ++ after) = cs := by
    have hrev : ∀ c ∈ after.reverse, isBlank c = true := by simpa using hafter
    rw [trimEnd, List.reverse_append, List.dropWhile_append_of_pos hrev, hds, List.reverse_append,
      List.reverse_singleton, List.singleton_append, List.dropWhile_cons_of_neg (by simp [hstop])]
    simp
  rw [trim, hfirst, hlast]

def squeeze (cs : List Char) : List Char := cs.filter fun c => !isBlank c

def strip (s : String) : String := String.ofList (trim s.toList)

def stripEnd (s : String) : String := String.ofList (trimEnd s.toList)

end RustOutline.Text
