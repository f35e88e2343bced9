import RustOutline.Json.Reader

/-! The grammar of JSON texts, as a relation between characters and the value that they stand for,
and its agreement with the reader: whatever the grammar derives is read back, with the same value.
So a text has at most one value. -/
namespace RustOutline.Json

/-- White space, which may stand around every token. -/
def Blank (cs : List Char) : Prop := ∀ c ∈ cs, isSpace c = true

/-- What stands between two quotes, and the characters that it spells. A code unit that is one half
of a pair spells nothing on its own. -/
inductive Spells : List Char → List Char → Prop
  | nil : Spells [] []
  | plain {c : Char} {cs s : List Char} (control : 0x20 ≤ c.toNat) (quote : c ≠ '"')
      (backslash : c ≠ '\\') (rest : Spells cs s) : Spells (c :: cs) (c :: s)
  | escape {e c : Char} {cs s : List Char} (stands : unescape? e = some c) (rest : Spells cs s) :
      Spells ('\\' :: e :: cs) (c :: s)
  | unit {a b c d : Char} {u : Nat} {cs s : List Char} (code : codeUnit? a b c d = some u)
      (single : u < 0xD800 ∨ 0xE000 ≤ u) (rest : Spells cs s) :
      Spells ('\\' :: 'u' :: a :: b :: c :: d :: cs) (Char.ofNat u :: s)
  | pair {a b c d a' b' c' d' ch : Char} {high low : Nat} {cs s : List Char}
      (first : codeUnit? a b c d = some high) (second : codeUnit? a' b' c' d' = some low)
      (joined : pair? high low = some ch) (rest : Spells cs s) :
      Spells ('\\' :: 'u' :: a :: b :: c :: d :: '\\' :: 'u' :: a' :: b' :: c' :: d' :: cs)
        (ch :: s)

structure Digits (ds : List Char) : Prop where
  ne_nil : ds ≠ []
  digit : ∀ d ∈ ds, d.isDigit = true

/-- The digits before the point: a zero alone, or digits of which the first is none. -/
structure Whole (ds : List Char) : Prop extends Digits ds where
  leading : ds.head? = some '0' → ds = ['0']

/-- An optional fraction, and its digits. -/
inductive Fraction : List Char → List Char → Prop
  | none : Fraction [] []
  | some {ds : List Char} (digits : Digits ds) : Fraction ('.' :: ds) ds

/-- An optional exponent, and its number. -/
inductive Exponent : List Char → Option Int → Prop
  | none : Exponent [] none
  | unsigned {e : Char} {ds : List Char} (mark : e = 'e' ∨ e = 'E') (digits : Digits ds) :
      Exponent (e :: ds) (some (digitsValue ds))
  | plus {e : Char} {ds : List Char} (mark : e = 'e' ∨ e = 'E') (digits : Digits ds) :
      Exponent (e :: '+' :: ds) (some (digitsValue ds))
  | minus {e : Char} {ds : List Char} (mark : e = 'e' ∨ e = 'E') (digits : Digits ds) :
      Exponent (e :: '-' :: ds) (some (-(digitsValue ds : Int)))

def minusSign (negative : Bool) : List Char := if negative then ['-'] else []

/-- A number without fraction and exponent is an integer of any size, any other a double. -/
def numberValue (negative : Bool) (whole fraction : List Char) (exponent : Option Int) : Value :=
  if fraction.isEmpty && exponent.isNone then
    .int (if negative then -(digitsValue whole : Int) else digitsValue whole)
  else .real (realOf negative whole fraction (exponent.getD 0))

/-- A value inside an array or object, with the blanks around it. -/
structure Element where
  before : List Char
  text : List Char
  after : List Char
  value : Value

namespace Element

def chars (e : Element) : List Char := e.before ++ (e.text ++ e.after)

def Padded (e : Element) : Prop := Blank e.before ∧ Blank e.after

end Element

/-- A field of an object: its name in quotes, a colon and its value. -/
structure Member where
  before : List Char
  quoted : List Char
  name : List Char
  after : List Char
  element : Element

namespace Member

def chars (m : Member) : List Char :=
  m.before ++ '"' :: (m.quoted ++ '"' :: (m.after ++ ':' :: m.element.chars))

def Padded (m : Member) : Prop := Blank m.before ∧ Blank m.after ∧ m.element.Padded

def field (m : Member) : Key × Value := (.text (String.ofList m.name), m.element.value)

end Member

/-- What follows the first part of a list: parts with a comma before each. -/
def afterCommas {α : Type} (chars : α → List Char) (parts : List α) : List Char :=
  parts.flatMap fun part => ',' :: chars part

/-- The object with these fields; of two with one name the later value stands in the place of the
earlier. -/
def objectOf (fields : List (Key × Value)) (seen : Fields) : Fields :=
  fields.foldl (fun fs f => Fields.put f.1 f.2 fs) seen

/-- The text, without blanks around it, stands for the value. -/
inductive Denotes : List Char → Value → Prop
  | null : Denotes "null".toList .null
  | bool (b : Bool) : Denotes (if b then "true" else "false").toList (.bool b)
  | number {negative : Bool} {ds f e fs : List Char} {exponent : Option Int} (whole : Whole ds)
      (fraction : Fraction f fs) (exp : Exponent e exponent) :
      Denotes (minusSign negative ++ (ds ++ (f ++ e))) (numberValue negative ds fs exponent)
  | str {cs s : List Char} (spells : Spells cs s) :
      Denotes ('"' :: (cs ++ ['"'])) (.str (String.ofList s))
  | emptyArr {blank : List Char} (h : Blank blank) : Denotes ('[' :: (blank ++ [']'])) (.arr [])
  | arr {first : Element} {rest : List Element}
      (denotes : ∀ e ∈ first :: rest, Denotes e.text e.value)
      (padded : ∀ e ∈ first :: rest, e.Padded) :
      Denotes ('[' :: (first.chars ++ (afterCommas Element.chars rest ++ [']'])))
        (.arr (first.value :: rest.map Element.value))
  | emptyObj {blank : List Char} (h : Blank blank) :
      Denotes ('\x7b' :: (blank ++ ['\x7d'])) (.obj [])
  | obj {first : Member} {rest : List Member}
      (denotes : ∀ m ∈ first :: rest, Denotes m.element.text m.element.value)
      (spells : ∀ m ∈ first :: rest, Spells m.quoted m.name)
      (padded : ∀ m ∈ first :: rest, m.Padded) :
      Denotes ('\x7b' :: (first.chars ++ (afterCommas Member.chars rest ++ ['\x7d'])))
        (.obj (objectOf ((first :: rest).map Member.field) []))

/-- A whole text stands for a value: nothing but blanks stands around it. -/
def DenotesText (cs : List Char) (v : Value) : Prop :=
  ∃ e : Element, e.chars = cs ∧ e.value = v ∧ Denotes e.text e.value ∧ e.Padded

theorem skipSpace_append {blank : List Char} (h : Blank blank) (rest : List Char) :
    skipSpace (blank ++ rest) = skipSpace rest :=
  List.dropWhile_append_of_pos h

theorem skipSpace_cons {c : Char} {cs : List Char} (h : isSpace c = false) :
    skipSpace (c :: cs) = c :: cs := by
  simp [skipSpace, h]

theorem unescape?_u : unescape? 'u' = none := by decide

theorem readString_of_spells {cs s : List Char} (h : Spells cs s) (rest : List Char) :
    readString (cs ++ '"' :: rest) = some (s, rest) := by
  induction h with
  | nil => rfl
  | @plain c cs s control quote backslash _ ih =>
    rw [List.cons_append, readString.eq_def]
    split
    all_goals simp_all
  | @escape e c cs s stands _ ih =>
    have hu : e ≠ 'u' := by
      rintro rfl
      simp [unescape?_u] at stands
    rw [List.cons_append, List.cons_append, readString.eq_def]
    simp [hu, stands, ih]
  | unit code single _ ih => simp [readString, code, single, ih]
  | @pair a b c d a' b' c' d' ch high low cs s first second joined _ ih =>
    have hhigh : ¬(high < 0xD800 ∨ 0xE000 ≤ high) := by
      intro hsingle
      rw [pair?, if_neg (by omega)] at joined
      simp at joined
    simp [readString, first, hhigh, second, joined, ih]

/-- Nothing that would go on with a number. -/
def Boundary (rest : List Char) : Prop :=
  ∀ c, rest.head? = some c → c.isDigit = false ∧ c ≠ '.' ∧ c ≠ 'e' ∧ c ≠ 'E'

theorem boundary_nil : Boundary [] := by
  intro c hc
  simp at hc

theorem Digits.split {ds rest : List Char} (h : Digits ds)
    (hrest : ∀ c, rest.head? = some c → c.isDigit = false) :
    (ds ++ rest).takeWhile Char.isDigit = ds ∧ (ds ++ rest).dropWhile Char.isDigit = rest := by
  rw [List.takeWhile_append_of_pos h.digit, List.dropWhile_append_of_pos h.digit]
  cases rest with
  | nil => simp
  | cons c rest => simp [hrest c rfl]

theorem readFraction_of_fraction {f fs rest : List Char} (h : Fraction f fs)
    (hrest : ∀ c, rest.head? = some c → c.isDigit = false ∧ c ≠ '.') :
    readFraction (f ++ rest) = some (fs, rest) := by
  cases h with
  | none =>
    cases rest with
    | nil => rfl
    | cons c rest => simp [readFraction, (hrest c rfl).2]
  | some digits =>
    obtain ⟨htake, hdrop⟩ := digits.split fun c hc => (hrest c hc).1
    simp [readFraction, htake, hdrop, digits.ne_nil]

theorem readExponent_of_exponent {e rest : List Char} {exponent : Option Int}
    (h : Exponent e exponent) (hrest : Boundary rest) :
    readExponent (e ++ rest) = some (exponent, rest) := by
  have split {ds : List Char} (digits : Digits ds) := digits.split fun c hc => (hrest c hc).1
  cases h with
  | none =>
    cases rest with
    | nil => rfl
    | cons c rest => simp [readExponent, (hrest c rfl).2]
  | @unsigned m ds mark digits =>
    obtain ⟨htake, hdrop⟩ := split digits
    cases ds with
    | nil => exact absurd rfl digits.ne_nil
    | cons d ds =>
      have hd : d.isDigit = true := digits.digit d List.mem_cons_self
      have hminus : d ≠ '-' := by
        rintro rfl
        simp at hd
      have hplus : d ≠ '+' := by
        rintro rfl
        simp at hd
      simp only [List.cons_append] at htake hdrop
      simp [readExponent, mark, hminus, hplus, htake, hdrop]
  | plus mark digits =>
    obtain ⟨htake, hdrop⟩ := split digits
    simp [readExponent, mark, htake, hdrop, digits.ne_nil]
  | minus mark digits =>
    obtain ⟨htake, hdrop⟩ := split digits
    simp [readExponent, mark, htake, hdrop, digits.ne_nil]

theorem Exponent.head {e rest : List Char} {exponent : Option Int} (h : Exponent e exponent)
    (hrest : Boundary rest) : ∀ c, (e ++ rest).head? = some c → c.isDigit = false ∧ c ≠ '.' := by
  intro c hc
  have mark {m : Char} {cs : List Char} (hm : m = 'e' ∨ m = 'E') (hc : (m :: cs).head? = some c) :
      c.isDigit = false ∧ c ≠ '.' := by
    obtain rfl := Option.some.inj hc
    rcases hm with rfl | rfl <;> decide
  cases h with
  | none => exact ⟨(hrest c hc).1, (hrest c hc).2.1⟩
  | unsigned hm _ => exact mark hm hc
  | plus hm _ => exact mark hm hc
  | minus hm _ => exact mark hm hc

theorem readUnsigned_of_number (negative : Bool) {ds f e fs rest : List Char}
    {exponent : Option Int} (whole : Whole ds) (fraction : Fraction f fs)
    (exp : Exponent e exponent) (hrest : Boundary rest) :
    readUnsigned standard negative (ds ++ (f ++ (e ++ rest))) =
      some (numberValue negative ds fs exponent, rest) := by
  have hhead : ∀ c, (f ++ (e ++ rest)).head? = some c → c.isDigit = false := by
    intro c hc
    cases fraction with
    | none => exact (exp.head hrest c hc).1
    | some _ =>
      obtain rfl := Option.some.inj hc
      decide
  obtain ⟨htake, hdrop⟩ := whole.toDigits.split hhead
  have hleading : (ds.isEmpty || (decide (1 < ds.length) && ds.head? == some '0')) = false := by
    have := whole.leading
    have := whole.ne_nil
    grind
  have hfraction := readFraction_of_fraction fraction (exp.head hrest)
  have hexponent := readExponent_of_exponent exp hrest
  by_cases hint : fs = [] ∧ exponent = none <;>
    simp [readUnsigned, numberValue, standard, htake, hdrop, hleading, hfraction, hexponent, hint]

theorem readNumber_of_number (negative : Bool) {ds f e fs rest : List Char}
    {exponent : Option Int} (whole : Whole ds) (fraction : Fraction f fs)
    (exp : Exponent e exponent) (hrest : Boundary rest) :
    readNumber standard (minusSign negative ++ (ds ++ (f ++ (e ++ rest)))) =
      some (numberValue negative ds fs exponent, rest) := by
  have hread := readUnsigned_of_number negative whole fraction exp hrest
  obtain ⟨d, ds, rfl⟩ := List.exists_cons_of_ne_nil whole.ne_nil
  have hd : d.isDigit = true := whole.digit d List.mem_cons_self
  have hne {c : Char} (hc : c.isDigit = false) : d ≠ c := by
    rintro rfl
    simp [hd] at hc
  cases negative with
  | false => simpa [readNumber, minusSign, hne (c := '-') (by decide)] using hread
  | true => simpa [readNumber, minusSign, hne (c := 'I') (by decide)] using hread

theorem isSpace_of_isDigit {c : Char} (h : c.isDigit = true) : isSpace c = false := by
  rw [Bool.eq_false_iff]
  intro hspace
  simp only [isSpace, Bool.or_eq_true, decide_eq_true_eq] at hspace
  rcases hspace with ((rfl | rfl) | rfl) | rfl <;> simp at h

theorem Boundary.of_blank {blank rest : List Char} (h : Blank blank) (hrest : Boundary rest) :
    Boundary (blank ++ rest) := by
  cases blank with
  | nil => exact hrest
  | cons c blank =>
    intro c' hc'
    obtain rfl : c = c' := Option.some.inj hc'
    have hspace := h c List.mem_cons_self
    simp only [isSpace, Bool.or_eq_true, decide_eq_true_eq] at hspace
    rcases hspace with ((rfl | rfl) | rfl) | rfl <;> decide

theorem boundary_of_mem {c : Char} (rest : List Char) (h : c ∈ [',', ']', '\x7d']) :
    Boundary (c :: rest) := by
  intro c' hc'
  obtain rfl : c = c' := Option.some.inj hc'
  simp only [List.mem_cons, List.not_mem_nil, or_false] at h
  rcases h with rfl | rfl | rfl <;> decide

theorem skipSpace_mark {blank rest : List Char} {c : Char} (h : Blank blank)
    (hc : c ∈ [',', ':', ']', '\x7d', '"']) : skipSpace (blank ++ c :: rest) = c :: rest := by
  have hspace : isSpace c = false := by
    simp only [List.mem_cons, List.not_mem_nil, or_false] at hc
    rcases hc with rfl | rfl | rfl | rfl | rfl <;> decide
  rw [skipSpace_append h, skipSpace_cons hspace]

/-- A value begins neither with a blank nor with the end of an array. -/
theorem Denotes.head {cs : List Char} {v : Value} (h : Denotes cs v) :
    ∃ c rest, cs = c :: rest ∧ isSpace c = false ∧ c ≠ ']' := by
  cases h with
  | @number negative ds f e fs exponent whole _ _ =>
    cases negative with
    | true => exact ⟨_, _, rfl, by decide, by decide⟩
    | false =>
      obtain ⟨d, ds, rfl⟩ := List.exists_cons_of_ne_nil whole.ne_nil
      have hd : d.isDigit = true := whole.digit d List.mem_cons_self
      refine ⟨d, _, rfl, isSpace_of_isDigit hd, ?_⟩
      rintro rfl
      simp at hd
  | bool b => cases b <;> exact ⟨_, _, rfl, by decide, by decide⟩
  | _ => exact ⟨_, _, rfl, by decide, by decide⟩

/-- The text is read as the value, in front of anything that cannot go on with it. -/
def ReadsAs (cs : List Char) (v : Value) : Prop :=
  ∀ (fuel : Nat) (rest : List Char), Boundary rest → cs.length ≤ fuel →
    readValue standard fuel (cs ++ rest) = some (v, rest)

theorem readValue_blank {blank : List Char} (h : Blank blank) (fuel : Nat) (cs : List Char) :
    readValue standard fuel (blank ++ cs) = readValue standard fuel cs := by
  cases fuel with
  | zero => rfl
  | succ fuel => rw [readValue, readValue, skipSpace_append h]

@[simp] theorem afterCommas_nil {α : Type} (chars : α → List Char) :
    afterCommas chars [] = [] := rfl

@[simp] theorem afterCommas_cons {α : Type} (chars : α → List Char) (part : α) (parts : List α) :
    afterCommas chars (part :: parts) = ',' :: (chars part ++ afterCommas chars parts) := rfl

theorem readValue_element {e : Element} (reads : ReadsAs e.text e.value) (padded : e.Padded)
    {rest : List Char} (hrest : Boundary rest) {fuel : Nat} (hfuel : e.chars.length ≤ fuel) :
    readValue standard fuel (e.chars ++ rest) = some (e.value, e.after ++ rest) := by
  have hlength : e.text.length ≤ fuel := by
    simp only [Element.chars, List.length_append] at hfuel
    omega
  have hread := reads fuel _ (.of_blank padded.2 hrest) hlength
  simpa [Element.chars, readValue_blank padded.1] using hread

theorem readItems_element {e : Element} (reads : ReadsAs e.text e.value) (padded : e.Padded)
    {fuel : Nat} (hfuel : e.chars.length ≤ fuel) (tail : List Char) :
    readItems standard (fuel + 1) (e.chars ++ ']' :: tail) = some ([e.value], tail) ∧
      readItems standard (fuel + 1) (e.chars ++ ',' :: tail) =
        (readItems standard fuel tail).map fun (vs, rest) => (e.value :: vs, rest) := by
  have hread {c : Char} (hc : c ∈ [',', ']', '\x7d']) :=
    readValue_element reads padded (boundary_of_mem tail hc) hfuel
  constructor <;> simp [readItems, hread, skipSpace_mark padded.2]

theorem readItems_of_elements {first : Element} {rest : List Element} {fuel : Nat}
    (tail : List Char) (reads : ∀ e ∈ first :: rest, ReadsAs e.text e.value)
    (padded : ∀ e ∈ first :: rest, e.Padded)
    (hfuel : first.chars.length + (afterCommas Element.chars rest).length < fuel) :
    readItems standard fuel (first.chars ++ (afterCommas Element.chars rest ++ ']' :: tail)) =
      some (first.value :: rest.map Element.value, tail) := by
  obtain ⟨fuel, rfl⟩ : ∃ n, fuel = n + 1 := ⟨fuel - 1, by omega⟩
  induction rest generalizing first fuel with
  | nil =>
    have hstep := readItems_element (reads first (by simp)) (padded first (by simp))
      (Nat.le_of_lt_succ hfuel) tail
    simpa using hstep.1
  | cons second rest ih =>
    simp only [afterCommas_cons, List.length_cons, List.length_append] at hfuel
    obtain ⟨fuel, rfl⟩ : ∃ n, fuel = n + 1 := ⟨fuel - 1, by omega⟩
    have hstep (tail : List Char) := readItems_element (reads first (by simp))
      (padded first (by simp)) (show first.chars.length ≤ fuel + 1 by omega) tail
    have hmore := ih (fun e he => reads e (List.mem_cons_of_mem _ he))
      (fun e he => padded e (List.mem_cons_of_mem _ he)) fuel (by omega)
    simp [hstep, hmore]

theorem readFields_member {m : Member} (reads : ReadsAs m.element.text m.element.value)
    (spells : Spells m.quoted m.name) (padded : m.Padded) {fuel : Nat}
    (hfuel : m.chars.length ≤ fuel) (seen : Fields) (tail : List Char) :
    readFields standard (fuel + 1) seen (m.chars ++ '\x7d' :: tail) =
        some (Fields.put m.field.1 m.field.2 seen, tail) ∧
      readFields standard (fuel + 1) seen (m.chars ++ ',' :: tail) =
        readFields standard fuel (Fields.put m.field.1 m.field.2 seen) tail := by
  obtain ⟨hbefore, hafter, helement⟩ := padded
  have hlength : m.element.chars.length ≤ fuel := by
    simp only [Member.chars, List.length_append, List.length_cons] at hfuel
    omega
  have hread {c : Char} (hc : c ∈ [',', ']', '\x7d']) :=
    readValue_element reads helement (boundary_of_mem tail hc) hlength
  constructor <;>
    simp [readFields, Member.chars, Member.field, hread, readString_of_spells spells,
      skipSpace_mark hbefore, skipSpace_mark hafter, skipSpace_mark helement.2]

theorem readFields_of_members {first : Member} {rest : List Member} {fuel : Nat} (seen : Fields)
    (tail : List Char) (reads : ∀ m ∈ first :: rest, ReadsAs m.element.text m.element.value)
    (spells : ∀ m ∈ first :: rest, Spells m.quoted m.name)
    (padded : ∀ m ∈ first :: rest, m.Padded)
    (hfuel : first.chars.length + (afterCommas Member.chars rest).length < fuel) :
    readFields standard fuel seen
        (first.chars ++ (afterCommas Member.chars rest ++ '\x7d' :: tail)) =
      some (objectOf ((first :: rest).map Member.field) seen, tail) := by
  obtain ⟨fuel, rfl⟩ : ∃ n, fuel = n + 1 := ⟨fuel - 1, by omega⟩
  induction rest generalizing first fuel seen with
  | nil =>
    have hstep := readFields_member (reads first (by simp)) (spells first (by simp))
      (padded first (by simp)) (Nat.le_of_lt_succ hfuel) seen tail
    simpa [objectOf] using hstep.1
  | cons second rest ih =>
    simp only [afterCommas_cons, List.length_cons, List.length_append] at hfuel
    obtain ⟨fuel, rfl⟩ : ∃ n, fuel = n + 1 := ⟨fuel - 1, by omega⟩
    have hstep (tail : List Char) := readFields_member (reads first (by simp))
      (spells first (by simp)) (padded first (by simp))
      (show first.chars.length ≤ fuel + 1 by omega) seen tail
    have hmore (seen : Fields) := ih seen (fun m hm => reads m (List.mem_cons_of_mem _ hm))
      (fun m hm => spells m (List.mem_cons_of_mem _ hm))
      (fun m hm => padded m (List.mem_cons_of_mem _ hm)) fuel (by omega)
    simp [hstep, hmore, objectOf]

theorem skipSpace_skipSpace (cs : List Char) : skipSpace (skipSpace cs) = skipSpace cs := by
  induction cs with
  | nil => rfl
  | cons c cs ih =>
    cases h : isSpace c with
    | false => simp [skipSpace_cons h]
    | true => simpa [skipSpace, h] using ih

theorem readItems_skipSpace (fuel : Nat) (cs : List Char) :
    readItems standard fuel (skipSpace cs) = readItems standard fuel cs := by
  have hvalue (fuel : Nat) :
      readValue standard fuel (skipSpace cs) = readValue standard fuel cs := by
    cases fuel with
    | zero => rfl
    | succ fuel => rw [readValue, readValue, skipSpace_skipSpace]
  cases fuel with
  | zero => rfl
  | succ fuel => rw [readItems, readItems, hvalue]

theorem readFields_skipSpace (fuel : Nat) (seen : Fields) (cs : List Char) :
    readFields standard fuel seen (skipSpace cs) = readFields standard fuel seen cs := by
  cases fuel with
  | zero => rfl
  | succ fuel => rw [readFields, readFields, skipSpace_skipSpace]

theorem Denotes.readsAs_of_succ {cs : List Char} {v : Value} (hd : Denotes cs v)
    (h : ∀ (fuel : Nat) (rest : List Char), Boundary rest → cs.length ≤ fuel + 1 →
      readValue standard (fuel + 1) (cs ++ rest) = some (v, rest)) : ReadsAs cs v := by
  intro fuel rest hrest hfuel
  obtain ⟨c, cs', rfl, _⟩ := hd.head
  obtain ⟨fuel, rfl⟩ : ∃ n, fuel = n + 1 := ⟨fuel - 1, by simp at hfuel; omega⟩
  exact h fuel rest hrest hfuel

theorem readValue_eq_readNumber {c : Char} (hc : c = '-' ∨ c.isDigit = true) (fuel : Nat)
    (cs : List Char) : readValue standard (fuel + 1) (c :: cs) = readNumber standard (c :: cs) := by
  have hne {c' : Char} (h : c' ≠ '-' ∧ c'.isDigit = false) : c ≠ c' := by
    rintro rfl
    simp [h] at hc
  have hspace : isSpace c = false := by
    rcases hc with rfl | hc
    · decide
    · exact isSpace_of_isDigit hc
  rw [readValue, skipSpace_cons hspace]
  simp [standard, hne]

theorem skipSpace_element {e : Element} (denotes : Denotes e.text e.value) (padded : e.Padded)
    (tail : List Char) : ∃ c cs, skipSpace (e.chars ++ tail) = c :: cs ∧ c ≠ ']' := by
  obtain ⟨c, cs, htext, hspace, hbracket⟩ := denotes.head
  refine ⟨c, cs ++ (e.after ++ tail), ?_, hbracket⟩
  simp [Element.chars, htext, skipSpace_append padded.1, skipSpace_cons hspace]

theorem skipSpace_member {m : Member} (padded : m.Padded) (tail : List Char) :
    ∃ cs, skipSpace (m.chars ++ tail) = '"' :: cs := by
  rw [Member.chars, List.append_assoc, List.cons_append, skipSpace_mark padded.1 (by simp)]
  exact ⟨_, rfl⟩

/-- Whatever the grammar derives is read back. -/
theorem Denotes.readsAs {cs : List Char} {v : Value} (h : Denotes cs v) : ReadsAs cs v := by
  induction h with
  | null =>
    refine null.readsAs_of_succ fun fuel rest _ _ => ?_
    simp [readValue, skipSpace, isSpace, readWord]
  | bool b =>
    refine (bool b).readsAs_of_succ fun fuel rest _ _ => ?_
    cases b <;> simp [readValue, skipSpace, isSpace, readWord]
  | @number negative ds f e fs exponent whole fraction exp =>
    refine (number whole fraction exp).readsAs_of_succ fun fuel rest hrest _ => ?_
    have hnumber := readNumber_of_number negative whole fraction exp hrest
    obtain ⟨d, ds, rfl⟩ := List.exists_cons_of_ne_nil whole.ne_nil
    have hd : d.isDigit = true := whole.digit d List.mem_cons_self
    cases negative with
    | true => simpa [minusSign, readValue_eq_readNumber] using hnumber
    | false => simpa [minusSign, readValue_eq_readNumber, hd] using hnumber
  | str spells =>
    refine (str spells).readsAs_of_succ fun fuel rest _ _ => ?_
    simp [readValue, skipSpace_cons (c := '"') (by decide), readString_of_spells spells]
  | emptyArr h =>
    refine (emptyArr h).readsAs_of_succ fun fuel rest _ _ => ?_
    simp [readValue, skipSpace_cons (c := '[') (by decide), skipSpace_mark h]
  | @arr first others denotes padded ih =>
    refine (arr denotes padded).readsAs_of_succ fun fuel rest _ hfuel => ?_
    simp only [List.length_append, List.length_cons, List.length_nil] at hfuel
    have hitems := readItems_of_elements rest ih padded (show _ < fuel by omega)
    obtain ⟨c, cs, hskip, hbracket⟩ := skipSpace_element (denotes first List.mem_cons_self)
      (padded first List.mem_cons_self) (afterCommas Element.chars others ++ ']' :: rest)
    rw [← readItems_skipSpace, hskip] at hitems
    simp [readValue, skipSpace_cons (c := '[') (by decide), hskip, hbracket, hitems]
  | emptyObj h =>
    refine (emptyObj h).readsAs_of_succ fun fuel rest _ _ => ?_
    simp [readValue, skipSpace_cons (c := '\x7b') (by decide), skipSpace_mark h]
  | @obj first others denotes spells padded ih =>
    refine (obj denotes spells padded).readsAs_of_succ fun fuel rest _ hfuel => ?_
    simp only [List.length_append, List.length_cons, List.length_nil] at hfuel
    have hfields := readFields_of_members [] rest ih spells padded (show _ < fuel by omega)
    obtain ⟨cs, hskip⟩ := skipSpace_member (padded first List.mem_cons_self)
      (afterCommas Member.chars others ++ '\x7d' :: rest)
    rw [← readFields_skipSpace, hskip] at hfields
    simp [readValue, skipSpace_cons (c := '\x7b') (by decide), hskip, hfields]

/-- Whatever the grammar derives for a whole text is read from it. -/
theorem read_of_denotesText {cs : List Char} {v : Value} (h : DenotesText cs v) :
    read standard (String.ofList cs) = some v := by
  obtain ⟨e, rfl, rfl, denotes, padded⟩ := h
  have hvalue := readValue_element denotes.readsAs padded boundary_nil
    (show e.chars.length ≤ 2 * e.chars.length + 2 by omega)
  have hrest : skipSpace e.after = [] := by simpa [skipSpace] using skipSpace_append padded.2 []
  simp only [List.append_nil] at hvalue
  simp [read, hvalue, hrest]

/-- A text has at most one value. -/
theorem DenotesText.unique {cs : List Char} {v w : Value} (hv : DenotesText cs v)
    (hw : DenotesText cs w) : v = w :=
  Option.some.inj ((read_of_denotesText hv).symm.trans (read_of_denotesText hw))

end RustOutline.Json
