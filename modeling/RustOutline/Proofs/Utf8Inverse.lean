import RustOutline.Utf8
import Mathlib.Data.List.Basic

/-! Encoding and decoding undo each other. No byte is lost in decoding, malformed or not, so strict
decoding accepts the encodings of texts and nothing else. -/
namespace RustOutline.Utf8

/-- A byte that can stand inside a sequence. -/
def IsTail (b : UInt8) : Prop := 0x80 ≤ b.toNat ∧ b.toNat ≤ 0xBF

theorem isTail_iff {b : UInt8} : IsTail b ↔ 0x80 ≤ b ∧ b ≤ 0xBF := by
  simp [IsTail, UInt8.le_iff_toNat_le]

/-- The number that some bytes of a sequence add up to, after the ones before. -/
def joined (code : Nat) (bs : Bytes) : Nat := bs.foldl (fun code b => code * 64 + b.toNat % 64) code

section Lead
variable {b : UInt8}

theorem lead_one (h : b.toNat < 0x80) : lead b = ([.scalar (Char.ofNat b.toNat)], .start) := by
  simp [lead, UInt8.lt_iff_toNat_lt, h]

theorem lead_two (h : 0xC2 ≤ b.toNat) (h' : b.toNat < 0xE0) :
    lead b = ([], .inside [b] 0x80 0xBF 0 (b.toNat - 0xC0)) := by
  unfold lead
  simp only [UInt8.lt_iff_toNat_lt, UInt8.reduceToNat]
  rw [if_neg (by omega), if_neg (by omega), if_pos (by omega)]

/-- Numbers below 0x800, which two bytes are enough for, and surrogates are left out. -/
theorem lead_three (h : 0xE0 ≤ b.toNat) (h' : b.toNat < 0xF0) : ∃ low high,
    lead b = ([], .inside [b] low high 1 (b.toNat - 0xE0)) ∧
      ∀ x : UInt8, (low ≤ x ∧ x ≤ high) ↔
        IsTail x ∧ (b.toNat = 0xE0 → 0xA0 ≤ x.toNat) ∧ (b.toNat = 0xED → x.toNat ≤ 0x9F) := by
  unfold lead
  simp only [UInt8.lt_iff_toNat_lt, ← UInt8.toNat_inj, UInt8.reduceToNat]
  rw [if_neg (by omega), if_neg (by omega), if_neg (by omega)]
  split
  · next he =>
    refine ⟨_, _, by rw [he], fun x => ?_⟩
    simp only [IsTail, UInt8.le_iff_toNat_le, UInt8.reduceToNat]
    omega
  split
  · next he =>
    refine ⟨_, _, by rw [he], fun x => ?_⟩
    simp only [IsTail, UInt8.le_iff_toNat_le, UInt8.reduceToNat]
    omega
  · next he he' =>
    refine ⟨_, _, rfl, fun x => ?_⟩
    simp only [IsTail, UInt8.le_iff_toNat_le, UInt8.reduceToNat]
    omega

/-- Numbers that three bytes are enough for, and those above the last scalar, are left out. -/
theorem lead_four (h : 0xF0 ≤ b.toNat) (h' : b.toNat < 0xF5) : ∃ low high,
    lead b = ([], .inside [b] low high 2 (b.toNat - 0xF0)) ∧
      ∀ x : UInt8, (low ≤ x ∧ x ≤ high) ↔
        IsTail x ∧ (b.toNat = 0xF0 → 0x90 ≤ x.toNat) ∧ (b.toNat = 0xF4 → x.toNat ≤ 0x8F) := by
  unfold lead
  simp only [UInt8.lt_iff_toNat_lt, ← UInt8.toNat_inj, UInt8.reduceToNat]
  rw [if_neg (by omega), if_neg (by omega), if_neg (by omega),
    if_neg (by omega), if_neg (by omega), if_neg (by omega)]
  split
  · next he =>
    refine ⟨_, _, by rw [he], fun x => ?_⟩
    simp only [IsTail, UInt8.le_iff_toNat_le, UInt8.reduceToNat]
    omega
  split
  · next he he' =>
    refine ⟨_, _, rfl, fun x => ?_⟩
    simp only [IsTail, UInt8.le_iff_toNat_le, UInt8.reduceToNat]
    omega
  · next he he' =>
    have hlast : b.toNat = 0xF4 := by omega
    rw [if_pos hlast]
    refine ⟨_, _, by rw [hlast], fun x => ?_⟩
    simp only [IsTail, UInt8.le_iff_toNat_le, UInt8.reduceToNat]
    omega

theorem lead_none (h : 0x80 ≤ b.toNat ∧ b.toNat < 0xC2 ∨ 0xF5 ≤ b.toNat) :
    lead b = ([.malformed [b] .invalidStart], .start) := by
  unfold lead
  simp only [UInt8.lt_iff_toNat_lt, ← UInt8.toNat_inj, UInt8.reduceToNat]
  grind

end Lead

theorem run_inside {seen : Bytes} {low high : UInt8} {code : Nat} {b : UInt8} {more : Bytes}
    (hb : low ≤ b ∧ b ≤ high) (hmore : ∀ x ∈ more, IsTail x) (rest : Bytes) :
    run (.inside seen low high more.length code) (b :: (more ++ rest)) =
      .scalar (Char.ofNat (joined code (b :: more))) :: run .start rest := by
  induction more generalizing seen low high code b with
  | nil => simp [run, step, hb, joined]
  | cons x more ih =>
    obtain ⟨hx, hmore⟩ := List.forall_mem_cons.mp hmore
    rw [run, step, if_pos hb]
    exact ih (isTail_iff.mp hx) hmore

theorem run_sequence {b x low high : UInt8} {code : Nat} (more : Bytes)
    (hlead : lead b = ([], .inside [b] low high more.length code)) (hx : low ≤ x ∧ x ≤ high)
    (hmore : ∀ y ∈ more, IsTail y) (rest : Bytes) :
    run .start (b :: x :: (more ++ rest)) =
      .scalar (Char.ofNat (joined code (x :: more))) :: run .start rest := by
  rw [run, step, hlead]
  exact run_inside hx hmore rest

/-- An encoded character is read as that character, whatever follows. -/
theorem run_encodeChar (c : Char) (rest : Bytes) :
    run .start (String.utf8EncodeChar c ++ rest) = .scalar c :: run .start rest := by
  have hvalid : c.val.toNat < 0xD800 ∨ 0xDFFF < c.val.toNat ∧ c.val.toNat < 0x110000 := c.valid
  have hchar (n : Nat) (hn : n = c.val.toNat) : Char.ofNat n = c := by
    rw [hn]
    exact Char.ofNat_toNat c
  unfold String.utf8EncodeChar
  generalize c.val.toNat = v at hvalid hchar
  have hbyte (n : Nat) (hn : n < 256) : (UInt8.ofNat n).toNat = n := by
    simpa using hn
  have tail (n : Nat) : IsTail (UInt8.ofNat (n % 64 + 128)) := by
    rw [IsTail, hbyte _ (by omega)]
    omega
  have last := hbyte (v % 64 + 128) (by omega)
  have third := hbyte (v / 64 % 64 + 128) (by omega)
  have second := hbyte (v / 4096 % 64 + 128) (by omega)
  dsimp only
  split
  · have first := hbyte v (by omega)
    rw [List.singleton_append, run, step, lead_one (by omega), first, hchar v rfl]
    rfl
  split
  · have first := hbyte (v / 64 % 32 + 192) (by omega)
    have hlead := lead_two (b := UInt8.ofNat (v / 64 % 32 + 192)) (by omega) (by omega)
    refine (run_sequence [] hlead (isTail_iff.mp (tail v)) (by simp) rest).trans ?_
    rw [hchar]
    simp only [joined, List.foldl_cons, List.foldl_nil, first, last]
    omega
  split
  · have first := hbyte (v / 4096 % 16 + 224) (by omega)
    obtain ⟨low, high, hlead, hrange⟩ :=
      lead_three (b := UInt8.ofNat (v / 4096 % 16 + 224)) (by omega) (by omega)
    have inRange := (hrange (UInt8.ofNat (v / 64 % 64 + 128))).mpr ⟨tail (v / 64), by omega, by omega⟩
    refine (run_sequence [_] hlead inRange (List.forall_mem_singleton.mpr (tail v)) rest).trans ?_
    rw [hchar]
    simp only [joined, List.foldl_cons, List.foldl_nil, first, third, last]
    omega
  · have first := hbyte (v / 262144 % 8 + 240) (by omega)
    obtain ⟨low, high, hlead, hrange⟩ :=
      lead_four (b := UInt8.ofNat (v / 262144 % 8 + 240)) (by omega) (by omega)
    have inRange := (hrange (UInt8.ofNat (v / 4096 % 64 + 128))).mpr
      ⟨tail (v / 4096), by omega, by omega⟩
    have tails : ∀ y ∈ [UInt8.ofNat (v / 64 % 64 + 128), UInt8.ofNat (v % 64 + 128)], IsTail y :=
      List.forall_mem_cons.mpr ⟨tail (v / 64), List.forall_mem_singleton.mpr (tail v)⟩
    refine (run_sequence _ hlead inRange tails rest).trans ?_
    rw [hchar]
    simp only [joined, List.foldl_cons, List.foldl_nil, first, second, third, last]
    omega

def Chunk.bytes : Chunk → Bytes
  | .scalar c => String.utf8EncodeChar c
  | .malformed bytes _ => bytes

def State.seen : State → Bytes
  | .start => []
  | .inside seen _ _ _ _ => seen

/-- Whatever completes the open sequence, it is the encoding of the character that comes out. -/
def State.Sound : State → Prop
  | .start => True
  | .inside seen low high left code => ∀ (b : UInt8) (more : Bytes), low ≤ b ∧ b ≤ high →
      (∀ x ∈ more, IsTail x) → more.length = left →
      String.utf8EncodeChar (Char.ofNat (joined code (b :: more))) = seen ++ b :: more

theorem ofNat_eq {n : Nat} {b : UInt8} (h : n = b.toNat) : UInt8.ofNat n = b := by
  rw [h, UInt8.ofNat_toNat]

/-- The encoding of a scalar, by its number. -/
theorem encodeChar_ofNat {v : Nat} (h : v < 0xD800 ∨ 0xDFFF < v ∧ v < 0x110000) :
    String.utf8EncodeChar (Char.ofNat v) =
      if v ≤ 0x7F then [UInt8.ofNat v]
      else if v ≤ 0x7FF then [UInt8.ofNat (v / 64 % 32 + 192), UInt8.ofNat (v % 64 + 128)]
      else if v ≤ 0xFFFF then
        [UInt8.ofNat (v / 4096 % 16 + 224), UInt8.ofNat (v / 64 % 64 + 128),
          UInt8.ofNat (v % 64 + 128)]
      else
        [UInt8.ofNat (v / 262144 % 8 + 240), UInt8.ofNat (v / 4096 % 64 + 128),
          UInt8.ofNat (v / 64 % 64 + 128), UInt8.ofNat (v % 64 + 128)] := by
  have hvalue : (Char.ofNat v).val.toNat = v := by
    rw [Char.ofNat, dif_pos h]
    rfl
  rw [String.utf8EncodeChar, hvalue]

theorem sound_lead (b : UInt8) : (lead b).2.Sound := by
  obtain h | h | h | h | h : b.toNat < 0x80 ∨ (0x80 ≤ b.toNat ∧ b.toNat < 0xC2 ∨ 0xF5 ≤ b.toNat) ∨
      (0xC2 ≤ b.toNat ∧ b.toNat < 0xE0) ∨ (0xE0 ≤ b.toNat ∧ b.toNat < 0xF0) ∨
      (0xF0 ≤ b.toNat ∧ b.toNat < 0xF5) := by omega
  · rw [lead_one h]
    trivial
  · rw [lead_none h]
    trivial
  · rw [lead_two h.1 h.2]
    intro x more hx _ hlength
    obtain rfl := List.length_eq_zero_iff.mp hlength
    obtain ⟨hx, hx'⟩ := isTail_iff.mpr hx
    simp only [joined, List.foldl_cons, List.foldl_nil]
    rw [encodeChar_ofNat (by omega), if_neg (by omega), if_pos (by omega),
      ofNat_eq (b := b) (by omega), ofNat_eq (b := x) (by omega)]
    rfl
  · obtain ⟨low, high, hlead, hrange⟩ := lead_three h.1 h.2
    rw [hlead]
    intro x more hx hmore hlength
    obtain ⟨y, rfl⟩ := List.length_eq_one_iff.mp hlength
    obtain ⟨⟨hx, hx'⟩, hlow, hhigh⟩ := (hrange x).mp hx
    obtain ⟨hy, hy'⟩ := List.forall_mem_singleton.mp hmore
    simp only [joined, List.foldl_cons, List.foldl_nil]
    rw [encodeChar_ofNat (by omega), if_neg (by omega), if_neg (by omega), if_pos (by omega),
      ofNat_eq (b := b) (by omega), ofNat_eq (b := x) (by omega), ofNat_eq (b := y) (by omega)]
    rfl
  · obtain ⟨low, high, hlead, hrange⟩ := lead_four h.1 h.2
    rw [hlead]
    intro x more hx hmore hlength
    obtain ⟨y, z, rfl⟩ : ∃ y z, more = [y, z] := List.length_eq_two.mp hlength
    obtain ⟨⟨hx, hx'⟩, hlow, hhigh⟩ := (hrange x).mp hx
    obtain ⟨⟨hy, hy'⟩, htail⟩ := List.forall_mem_cons.mp hmore
    obtain ⟨hz, hz'⟩ := List.forall_mem_singleton.mp htail
    simp only [joined, List.foldl_cons, List.foldl_nil]
    rw [encodeChar_ofNat (by omega), if_neg (by omega), if_neg (by omega), if_neg (by omega),
      ofNat_eq (b := b) (by omega), ofNat_eq (b := x) (by omega), ofNat_eq (b := y) (by omega),
      ofNat_eq (b := z) (by omega)]
    rfl

theorem bytes_lead (b : UInt8) : (lead b).1.flatMap Chunk.bytes ++ (lead b).2.seen = [b] := by
  by_cases h : b.toNat < 0x80
  · rw [lead_one h]
    have hencode := encodeChar_ofNat (v := b.toNat) (by omega)
    rw [if_pos (by omega), UInt8.ofNat_toNat] at hencode
    simpa [Chunk.bytes, State.seen] using hencode
  · unfold lead
    have hb : ¬ b < 0x80 := by simpa [UInt8.lt_iff_toNat_lt] using h
    rw [if_neg hb]
    repeat' split
    all_goals rfl

theorem bytes_step {s : State} (h : s.Sound) (b : UInt8) :
    (step s b).2.Sound ∧
      (step s b).1.flatMap Chunk.bytes ++ (step s b).2.seen = s.seen ++ [b] := by
  cases s with
  | start => exact ⟨sound_lead b, bytes_lead b⟩
  | inside seen low high left code =>
    rw [step]
    split
    · next hb =>
      cases left with
      | zero => exact ⟨trivial, by
          simpa [Chunk.bytes, State.seen, joined] using h b [] hb (by simp) rfl⟩
      | succ n =>
        refine ⟨fun x more hx hmore hlength => ?_, rfl⟩
        have hall := h b (x :: more) hb
          (List.forall_mem_cons.mpr ⟨isTail_iff.mpr hx, hmore⟩) (by simp [hlength])
        simpa [joined] using hall
    · refine ⟨sound_lead b, ?_⟩
      simp only [List.flatMap_cons, Chunk.bytes, List.append_assoc, bytes_lead]
      rfl

theorem run_cons (s : State) (b : UInt8) (bs : Bytes) :
    run s (b :: bs) = (step s b).1 ++ run (step s b).2 bs := by
  cases s <;> rfl

theorem bytes_run {s : State} (h : s.Sound) (bs : Bytes) :
    (run s bs).flatMap Chunk.bytes = s.seen ++ bs := by
  induction bs generalizing s with
  | nil => cases s <;> simp [run, Chunk.bytes, State.seen]
  | cons b bs ih =>
    obtain ⟨hsound, hbytes⟩ := bytes_step h b
    rw [run_cons, List.flatMap_append, ih hsound, ← List.append_assoc, hbytes, List.append_assoc,
      List.singleton_append]

theorem chunks_encodeChars_append (cs : List Char) (rest : Bytes) :
    chunks (encodeChars cs ++ rest) = cs.map .scalar ++ chunks rest := by
  induction cs with
  | nil => rfl
  | cons c cs ih =>
    rw [encodeChars, List.flatMap_cons, List.append_assoc, chunks, run_encodeChar]
    exact congrArg (Chunk.scalar c :: ·) ih

theorem decodeChars_encodeChars_append (cs : List Char) (rest : Bytes) :
    decodeChars (encodeChars cs ++ rest) = cs ++ decodeChars rest := by
  rw [decodeChars, chunks_encodeChars_append, List.map_append, List.map_map]
  simp [Function.comp_def, Chunk.char, decodeChars]

@[simp] theorem decodeChars_encodeChars (cs : List Char) : decodeChars (encodeChars cs) = cs := by
  simpa [decodeChars, chunks, run] using decodeChars_encodeChars_append cs []

@[simp] theorem decode_encode (s : String) : decode (encode s) = s := by
  simp [decode, encode]

theorem collect_eq_ok {position : Nat} {found : List Chunk} {cs : List Char} :
    collect position found = .ok cs ↔ found = cs.map .scalar := by
  induction found generalizing position cs with
  | nil => simp [collect, eq_comm]
  | cons chunk found ih =>
    cases chunk with
    | malformed bytes fault => cases cs <;> simp [collect]
    | scalar c =>
      rw [collect]
      constructor
      · intro h
        cases hrest : collect (position + c.utf8Size) found with
        | error m => simp [hrest, Except.map] at h
        | ok others =>
          rw [hrest] at h
          obtain rfl := Except.ok.inj h
          rw [ih.mp hrest, List.map_cons]
      · intro h
        cases cs with
        | nil => cases h
        | cons d others =>
          obtain ⟨hd, hothers⟩ := List.cons.inj h
          rw [ih.mpr hothers, Chunk.scalar.inj hd]
          rfl

/-- Strict decoding accepts the encodings of texts. -/
theorem decodeStrict_eq_ok {bs : Bytes} {s : String} :
    decodeStrict bs = .ok s ↔ bs = encode s := by
  constructor
  · intro h
    unfold decodeStrict at h
    cases hcs : collect 0 (chunks bs) with
    | error m => simp [hcs, Except.map] at h
    | ok cs =>
      rw [hcs] at h
      obtain rfl := Except.ok.inj h
      have hbytes : (chunks bs).flatMap Chunk.bytes = bs := bytes_run (s := .start) trivial bs
      rw [collect_eq_ok.mp hcs, List.flatMap_map] at hbytes
      simpa [encode, encodeChars, Chunk.bytes] using hbytes.symm
  · rintro rfl
    have hchunks : chunks (encode s) = s.toList.map .scalar := by
      simpa [encode, chunks, run] using chunks_encodeChars_append s.toList []
    simp [decodeStrict, collect_eq_ok.mpr hchunks, Except.map]

end RustOutline.Utf8
