import RustOutline.Proofs.Utf8Inverse
import RustOutline.Text.Lines

/-! Decoding and cutting into lines can change places. An ASCII byte closes whatever sequence is open
before it, and no other byte reads as a newline; so the lines of a decoded byte string are those of
the byte string, each decoded by itself, however malformed they are. -/
namespace RustOutline

theorem Text.lines_eq_splitOn (cs : List Char) : lines cs = cs.splitOn '\n' := by
  induction cs with
  | nil => rfl
  | cons c cs ih =>
    rw [lines, ih, List.splitOn_cons_eq_if_modifyHead]
    by_cases hc : c = '\n'
    · simp [hc]
    · obtain ⟨l, ls, hsplit⟩ := List.exists_cons_of_ne_nil (List.splitOn_ne_nil '\n' cs)
      simp [hc, hsplit]

namespace Utf8

/-- The lines of a byte string that a newline byte ends. -/
def completeLines (bs : Bytes) : List Bytes := (bs.splitOn 0x0A).dropLast

/-- Only a byte from 0x80 on can continue the open sequence. -/
def State.RefusesAscii : State → Prop
  | .start => True
  | .inside _ low _ _ _ => 0x80 ≤ low

theorem refusesAscii_lead (b : UInt8) : (lead b).2.RefusesAscii := by
  unfold lead
  repeat' split
  all_goals simp [State.RefusesAscii]

theorem refusesAscii_step {s : State} (h : s.RefusesAscii) (b : UInt8) :
    (step s b).2.RefusesAscii := by
  cases s with
  | start => exact refusesAscii_lead b
  | inside seen low high left code =>
    rw [step]
    split
    · cases left with
      | zero => trivial
      | succ n => exact (by decide : (0x80 : UInt8) ≤ 0x80)
    · exact refusesAscii_lead b

/-- At an ASCII byte the run stands as at the end of data, then reads the byte by itself. -/
theorem step_ascii {s : State} (h : s.RefusesAscii) {b : UInt8} (ascii : b < 0x80) :
    (step s b).1.map Chunk.char = (run s []).map Chunk.char ++ [Char.ofNat b.toNat] ∧
      (step s b).2 = .start := by
  have hlead : lead b = ([.scalar (Char.ofNat b.toNat)], .start) := by rw [lead, if_pos ascii]
  cases s with
  | start =>
    rw [step, hlead]
    exact ⟨rfl, rfl⟩
  | inside seen low high left code =>
    have hlow : ¬ low ≤ b := by
      simp only [State.RefusesAscii, UInt8.le_iff_toNat_le, UInt8.lt_iff_toNat_lt] at h ascii ⊢
      omega
    rw [step, if_neg fun hb => hlow hb.1, hlead]
    exact ⟨rfl, rfl⟩

theorem run_append_ascii {s : State} (h : s.RefusesAscii) (bs : Bytes) {b : UInt8}
    (ascii : b < 0x80) (rest : Bytes) :
    (run s (bs ++ b :: rest)).map Chunk.char =
      (run s bs).map Chunk.char ++ Char.ofNat b.toNat :: decodeChars rest := by
  induction bs generalizing s with
  | nil =>
    obtain ⟨hchars, hstart⟩ := step_ascii h ascii
    rw [List.nil_append, run_cons, hstart, List.map_append, hchars, List.append_assoc]
    rfl
  | cons c bs ih =>
    rw [List.cons_append, run_cons, run_cons, List.map_append, List.map_append,
      ih (refusesAscii_step h c), List.append_assoc]

/-- What stands before an ASCII byte is decoded as if nothing followed, and what follows as if
nothing stood before. -/
theorem decodeChars_append_ascii (bs : Bytes) {b : UInt8} (ascii : b < 0x80) (rest : Bytes) :
    decodeChars (bs ++ b :: rest) =
      decodeChars bs ++ Char.ofNat b.toNat :: decodeChars rest :=
  run_append_ascii (s := .start) trivial bs ascii rest

/-- A newline is read from a newline byte only. -/
theorem newline_not_mem_decodeChars {bs : Bytes} (h : 0x0A ∉ bs) : '\n' ∉ decodeChars bs := by
  intro hmem
  obtain ⟨chunk, hchunk, hchar⟩ := List.mem_map.mp hmem
  have hbytes : (chunks bs).flatMap Chunk.bytes = bs := bytes_run (s := .start) trivial bs
  cases chunk with
  | malformed bytes fault => cases hchar
  | scalar c =>
    obtain rfl : c = '\n' := hchar
    have hnewline : 0x0A ∈ Chunk.bytes (.scalar '\n') := by decide
    exact h (hbytes ▸ List.mem_flatMap.mpr ⟨_, hchunk, hnewline⟩)

/-- Induction along lines: first what no newline ends, then one line more in front. -/
theorem lineInduction {P : Bytes → Prop} (last : ∀ bs, 0x0A ∉ bs → P bs)
    (line : ∀ first rest, 0x0A ∉ first → P rest → P (first ++ 0x0A :: rest)) (bs : Bytes) :
    P bs := by
  by_cases h : 0x0A ∈ bs
  · obtain ⟨first, rest, rfl, hfirst⟩ := List.eq_append_cons_of_mem h
    exact line first rest hfirst (lineInduction last line rest)
  · exact last bs h
termination_by bs.length

theorem splitOn_decodeChars (bs : Bytes) :
    (decodeChars bs).splitOn '\n' = (bs.splitOn 0x0A).map decodeChars := by
  induction bs using lineInduction with
  | last bs h =>
    rw [List.splitOn_eq_singleton h, List.splitOn_eq_singleton (newline_not_mem_decodeChars h)]
    rfl
  | line first rest hfirst ih =>
    rw [decodeChars_append_ascii first (by decide) rest,
      List.splitOn_append_cons_self_of_not_mem hfirst, List.map_cons, ← ih]
    exact List.splitOn_append_cons_self_of_not_mem (newline_not_mem_decodeChars hfirst) _

theorem completeLines_decodeChars (bs : Bytes) :
    Text.completeLines (decodeChars bs) = (completeLines bs).map decodeChars := by
  rw [Text.completeLines, Text.lines_eq_splitOn, splitOn_decodeChars, completeLines, List.map_dropLast]

theorem completeLines_of_not_mem {bs : Bytes} (h : 0x0A ∉ bs) : completeLines bs = [] := by
  rw [completeLines, List.splitOn_eq_singleton h]
  rfl

theorem completeLines_line {first : Bytes} (h : 0x0A ∉ first) (rest : Bytes) :
    completeLines (first ++ 0x0A :: rest) = first :: completeLines rest := by
  rw [completeLines, List.splitOn_append_cons_self_of_not_mem h,
    List.dropLast_cons_of_ne_nil (List.splitOn_ne_nil _ _), completeLines]

theorem completeLines_append {more : Bytes} (h : 0x0A ∉ more) (bs : Bytes) :
    completeLines (bs ++ more) = completeLines bs := by
  induction bs using lineInduction with
  | last bs hbs =>
    have hall : 0x0A ∉ bs ++ more := fun hmem => (List.mem_append.mp hmem).elim hbs h
    rw [completeLines_of_not_mem hall, completeLines_of_not_mem hbs]
  | line first rest hfirst ih =>
    rw [List.append_assoc, List.cons_append, completeLines_line hfirst, completeLines_line hfirst, ih]

end Utf8
end RustOutline
