import RustOutline.Outline.Document
import RustOutline.Proofs.FieldNames
import RustOutline.Proofs.JsonGrammar

/-! JSON documents are read back: the text of a value made of null, truth values, integers, texts,
arrays and objects stands for that value and for no other, whatever the indent, as long as its
integers are short and its collections do not lie too deep. A value with a part that cannot be
written has no document. -/
namespace RustOutline

/-- Made of what every JSON reader keeps: no doubles, and names that are texts and differ. -/
inductive Value.Plain : Value → Prop
  | null : Plain .null
  | bool (b : Bool) : Plain (.bool b)
  | int (n : Int) : Plain (.int n)
  | str (s : String) : Plain (.str s)
  | arr {items : List Value} (plain : ∀ v ∈ items, Plain v) : Plain (.arr items)
  | obj {fields : List (String × Value)} (distinct : (fields.map Prod.fst).Nodup)
      (plain : ∀ f ∈ fields, Plain f.2) : Plain (.obj (Fields.ofTexts fields))

/-- The value stands in another one, with so many collections around it. -/
inductive Value.PartAt (part : Value) : Nat → Value → Prop
  | self : PartAt part 0 part
  | item {depth : Nat} {v : Value} {items : List Value} (mem : v ∈ items) (h : PartAt part depth v) :
      PartAt part (depth + 1) (.arr items)
  | field {depth : Nat} {f : Key × Value} {fields : List (Key × Value)} (mem : f ∈ fields)
      (h : PartAt part depth f.2) : PartAt part (depth + 1) (.obj fields)

def Value.isCollection : Value → Bool
  | .arr _ => true
  | .obj _ => true
  | _ => false

/-- The encoder has room for the value: for the digits of its integers and for what lies in its
collections. -/
structure Value.Fits (nesting : Json.Nesting) (v : Value) : Prop where
  short : ∀ (n : Int) (depth : Nat), (Value.int n).PartAt depth v → Decimal.isWritable n
  shallow : ∀ (part : Value) (depth : Nat), part.PartAt depth v → part.isCollection →
    nesting.admits depth

/-- What cannot be written where it stands, and what is said of it. -/
inductive Json.Obstacle (nesting : Nesting) (depth : Nat) : Value → String → Prop
  | foreign (reason : String) : Obstacle nesting depth (.foreign reason) reason
  | number {n : Int} (long : Decimal.isWritable n = false) :
      Obstacle nesting depth (.int n) (Decimal.excess "")
  | name {n : Int} {v : Value} {fields : List (Key × Value)}
      (long : Decimal.isWritable n = false) (mem : (.int n, v) ∈ fields) :
      Obstacle nesting depth (.obj fields) (Decimal.excess "")
  | deep {v : Value} (collection : v.isCollection) (full : nesting.admits depth = false) :
      Obstacle nesting depth v nesting.excess

namespace Json

theorem codeUnit?_hex : ∀ n < 0x20, ∃ a b c d,
    Text.hex 4 n = [a, b, c, d] ∧ codeUnit? a b c d = some n := by
  have h : ∀ n < 0x20, Text.hex 4 n = ['0', '0', Nat.digitChar (n / 16), Nat.digitChar (n % 16)] ∧
      codeUnit? '0' '0' (Nat.digitChar (n / 16)) (Nat.digitChar (n % 16)) = some n := by decide
  intro n hn
  exact ⟨_, _, _, _, h n hn⟩

theorem spells_escape (c : Char) {cs s : List Char} (h : Spells cs s) :
    Spells (escape c ++ cs) (c :: s) := by
  fun_cases escape c with
  | case1 hc => exact .escape (by rcases hc with rfl | rfl <;> decide) h
  | case2 _ hc => exact .escape (by rw [hc]; decide) h
  | case3 _ _ hc => exact .escape (by rw [hc]; decide) h
  | case4 _ _ _ hc => exact .escape (by rw [hc]; decide) h
  | case5 _ _ _ _ hc => exact .escape (by rw [hc]; decide) h
  | case6 _ _ _ _ _ hc => exact .escape (by rw [hc]; decide) h
  | case7 _ _ _ _ _ _ hc =>
    obtain ⟨x, y, z, w, hhex, hcode⟩ := codeUnit?_hex c.toNat hc
    have hunit := Spells.unit hcode (.inl (by omega)) h
    rw [Char.ofNat_toNat] at hunit
    rwa [hhex]
  | case8 hmark _ _ _ _ _ hc =>
    exact .plain (by omega) (fun h => hmark (.inl h)) (fun h => hmark (.inr h)) h

theorem spells_flatMap_escape (s : List Char) : Spells (s.flatMap escape) s := by
  induction s with
  | nil => exact .nil
  | cons c s ih => exact spells_escape c ih

theorem denotes_quote (s : String) : Denotes (quote s) (.str s) := by
  simpa [quote] using Denotes.str (spells_flatMap_escape s.toList)

theorem digitsValue_toDigits (n : Nat) : digitsValue (Nat.toDigits 10 n) = n := by
  have h : Nat.ofDigitChars 10 (Nat.toDigits 10 n) 0 = n := Nat.ofDigitChars_ten_toDigits
  rw [Nat.ofDigitChars_eq_foldl] at h
  simpa [digitsValue, Nat.mul_comm] using h

theorem whole_toDigits (n : Nat) : Whole (Nat.toDigits 10 n) where
  ne_nil := Nat.toDigits_ne_nil
  digit _ hd := Nat.isDigit_of_mem_toDigits (by decide) (by decide) hd
  leading := by
    intro hzero
    induction n using Nat.strongRecOn with
    | ind n ih =>
      rw [Nat.toDigits_eq_if (by decide)] at hzero ⊢
      split
      · next hn =>
        rw [if_pos hn, List.head?_cons] at hzero
        rw [Option.some.inj hzero]
      · next hn =>
        -- the digits before the last one are those of a smaller number, and that is not zero
        have hfirst : (Nat.toDigits 10 (n / 10)).head? = some '0' := by
          have hne : Nat.toDigits 10 (n / 10) ≠ [] := Nat.toDigits_ne_nil
          obtain ⟨d, ds, hds⟩ := List.exists_cons_of_ne_nil hne
          simpa [if_neg hn, hds] using hzero
        have hvalue := digitsValue_toDigits (n / 10)
        rw [ih (n / 10) (by omega) hfirst] at hvalue
        have hquotient : 0 = n / 10 := hvalue
        omega

theorem toList_toString (n : Int) :
    (toString n).toList = minusSign (decide (n < 0)) ++ Nat.toDigits 10 n.natAbs := by
  rw [Int.toString_eq_repr, Int.repr_eq_if]
  split
  · next hn =>
    have habs : n.toNat = n.natAbs := by omega
    simp [minusSign, Int.not_lt.mpr hn, Nat.repr_eq_ofList_toDigits, habs]
  · next hn =>
    have habs : (-n).toNat = n.natAbs := by omega
    simp [minusSign, Int.not_le.mp hn, Nat.repr_eq_ofList_toDigits, habs]

theorem denotes_toString (n : Int) : Denotes (toString n).toList (.int n) := by
  have hvalue : numberValue (decide (n < 0)) (Nat.toDigits 10 n.natAbs) [] none = .int n := by
    have hsize : (if decide (n < 0) then -(n.natAbs : Int) else n.natAbs) = n := by
      by_cases hn : n < 0
      · rw [if_pos (decide_eq_true hn)]
        omega
      · rw [if_neg (by simpa using hn)]
        omega
    simp only [numberValue, digitsValue_toDigits]
    exact congrArg Value.int hsize
  have h : Denotes (minusSign (decide (n < 0)) ++ (Nat.toDigits 10 n.natAbs ++ ([] ++ []))) _ :=
    .number (whole_toDigits n.natAbs) .none .none
  rw [toList_toString]
  simpa [hvalue] using h

def gap (indent : Indent) (depth : Nat) : List Char :=
  match indent with
  | none => [' ']
  | some _ => lineBreak indent depth

theorem separator_eq (indent : Indent) (depth : Nat) :
    separator indent depth = ',' :: gap indent depth := by
  cases indent <;> rfl

theorem blank_nil : Blank [] := by simp [Blank]

theorem blank_lineBreak (indent : Indent) (depth : Nat) : Blank (lineBreak indent depth) := by
  cases indent with
  | none => intro c hc; simp [lineBreak] at hc
  | some n =>
    intro c hc
    rcases List.mem_cons.mp hc with rfl | hc
    · decide
    · rw [List.eq_of_mem_replicate hc]
      decide

theorem blank_gap (indent : Indent) (depth : Nat) : Blank (gap indent depth) := by
  cases indent with
  | none => intro c hc; rw [List.mem_singleton.mp hc]; decide
  | some n => exact blank_lineBreak (some n) depth

/-- What is written for the value, whatever follows it, stands for the value. -/
def Written (indent : Indent) (depth : Nat) (v : Value) : Prop :=
  ∃ text, Denotes text v ∧ ∀ tail, write indent depth tail v = text ++ tail

theorem write_elements {indent : Indent} {depth : Nat} {before after : List Char}
    (hbefore : Blank before) (hafter : Blank after) {v : Value} {vs : List Value}
    (h : ∀ w ∈ v :: vs, Written indent depth w) :
    ∃ (first : Element) (rest : List Element), first.value = v ∧ rest.map Element.value = vs ∧
      (∀ e ∈ first :: rest, Denotes e.text e.value) ∧ (∀ e ∈ first :: rest, e.Padded) ∧
      ∀ tail, before ++ write indent depth (writeItems indent depth (after ++ tail) vs) v =
        first.chars ++ (afterCommas Element.chars rest ++ tail) := by
  induction vs generalizing v before with
  | nil =>
    obtain ⟨text, hdenotes, hwrite⟩ := h v List.mem_cons_self
    refine ⟨⟨before, text, after, v⟩, [], rfl, rfl, ?_, ?_, fun tail => ?_⟩
    · exact List.forall_mem_singleton.mpr hdenotes
    · exact List.forall_mem_singleton.mpr ⟨hbefore, hafter⟩
    · simp [writeItems, hwrite, Element.chars]
  | cons w vs ih =>
    obtain ⟨text, hdenotes, hwrite⟩ := h v List.mem_cons_self
    obtain ⟨second, rest, rfl, rfl, hdenotes', hpadded, htext⟩ :=
      ih (blank_gap indent depth) fun u hu => h u (List.mem_cons_of_mem _ hu)
    refine ⟨⟨before, text, [], v⟩, second :: rest, rfl, rfl, ?_, ?_, fun tail => ?_⟩
    · exact List.forall_mem_cons.mpr ⟨hdenotes, hdenotes'⟩
    · exact List.forall_mem_cons.mpr ⟨⟨hbefore, blank_nil⟩, hpadded⟩
    · simp [writeItems, hwrite, separator_eq, htext, Element.chars]

def memberOf (before : List Char) (name : String) (text after : List Char) (v : Value) : Member :=
  ⟨before, name.toList.flatMap escape, name.toList, [], ⟨[' '], text, after, v⟩⟩

theorem chars_memberOf (before : List Char) (name : String) (text after : List Char) (v : Value) :
    (memberOf before name text after v).chars =
      before ++ (quote name ++ ':' :: ' ' :: (text ++ after)) := by
  simp [memberOf, Member.chars, Element.chars, quote]

theorem padded_memberOf {before after : List Char} (hbefore : Blank before) (hafter : Blank after)
    (name : String) (text : List Char) (v : Value) : (memberOf before name text after v).Padded :=
  ⟨hbefore, blank_nil, by simp [memberOf, Blank, isSpace], hafter⟩

theorem field_memberOf (before : List Char) (name : String) (text after : List Char) (v : Value) :
    (memberOf before name text after v).field = (.text name, v) := by
  simp [memberOf, Member.field]

theorem write_members {indent : Indent} {depth : Nat} {before after : List Char}
    (hbefore : Blank before) (hafter : Blank after) {f : String × Value}
    {fs : List (String × Value)} (h : ∀ g ∈ f :: fs, Written indent depth g.2) :
    ∃ (first : Member) (rest : List Member),
      (first :: rest).map Member.field = Fields.ofTexts (f :: fs) ∧
      (∀ m ∈ first :: rest, Denotes m.element.text m.element.value) ∧
      (∀ m ∈ first :: rest, Spells m.quoted m.name) ∧ (∀ m ∈ first :: rest, m.Padded) ∧
      ∀ tail, before ++ (quote f.1 ++ ':' :: ' ' :: write indent depth
          (writeFields indent depth (after ++ tail) (Fields.ofTexts fs)) f.2) =
        first.chars ++ (afterCommas Member.chars rest ++ tail) := by
  induction fs generalizing f before with
  | nil =>
    obtain ⟨text, hdenotes, hwrite⟩ := h f List.mem_cons_self
    refine ⟨memberOf before f.1 text after f.2, [], ?_, ?_, ?_, ?_, fun tail => ?_⟩
    · simp [field_memberOf]
    · exact List.forall_mem_singleton.mpr hdenotes
    · exact List.forall_mem_singleton.mpr (spells_flatMap_escape f.1.toList)
    · exact List.forall_mem_singleton.mpr (padded_memberOf hbefore hafter f.1 text f.2)
    · simp [writeFields, hwrite, chars_memberOf]
  | cons g fs ih =>
    obtain ⟨text, hdenotes, hwrite⟩ := h f List.mem_cons_self
    obtain ⟨second, rest, hfields, hdenotes', hspells, hpadded, htext⟩ :=
      ih (blank_gap indent depth) fun u hu => h u (List.mem_cons_of_mem _ hu)
    refine ⟨memberOf before f.1 text [] f.2, second :: rest, ?_, ?_, ?_, ?_, fun tail => ?_⟩
    · rw [List.map_cons, hfields, field_memberOf]
      rfl
    · exact List.forall_mem_cons.mpr ⟨hdenotes, hdenotes'⟩
    · exact List.forall_mem_cons.mpr ⟨spells_flatMap_escape f.1.toList, hspells⟩
    · exact List.forall_mem_cons.mpr ⟨padded_memberOf hbefore blank_nil f.1 text f.2, hpadded⟩
    · simp [writeFields, hwrite, separator_eq, keyText, htext, chars_memberOf]

theorem written_of_plain {v : Value} (h : v.Plain) (indent : Indent) (depth : Nat) :
    Written indent depth v := by
  induction h generalizing depth with
  | null => exact ⟨_, .null, fun tail => by simp [write]⟩
  | bool b => exact ⟨_, .bool b, fun tail => by simp [write]⟩
  | int n => exact ⟨_, denotes_toString n, fun tail => by simp [write]⟩
  | str s => exact ⟨_, denotes_quote s, fun tail => by simp [write]⟩
  | @arr items _ ih =>
    cases items with
    | nil => exact ⟨_, .emptyArr blank_nil, fun tail => by simp [write]⟩
    | cons v vs =>
      obtain ⟨first, rest, rfl, rfl, hdenotes, hpadded, htext⟩ :=
        write_elements (blank_lineBreak indent (depth + 1)) (blank_lineBreak indent depth)
          fun w hw => ih w hw (depth + 1)
      refine ⟨_, .arr hdenotes hpadded, fun tail => ?_⟩
      simp [write, htext]
  | @obj fields distinct _ ih =>
    cases fields with
    | nil => exact ⟨_, .emptyObj blank_nil, fun tail => by simp [write]⟩
    | cons f fs =>
      obtain ⟨first, rest, hfields, hdenotes, hspells, hpadded, htext⟩ :=
        write_members (blank_lineBreak indent (depth + 1)) (blank_lineBreak indent depth)
          fun g hg => ih g hg (depth + 1)
      have hobject : objectOf ((first :: rest).map Member.field) [] = Fields.ofTexts (f :: fs) := by
        rw [hfields]
        exact Fields.foldl_put (Fields.distinct_ofTexts distinct)
      have hmembers := Denotes.obj hdenotes hspells hpadded
      rw [hobject] at hmembers
      refine ⟨_, hmembers, fun tail => ?_⟩
      simp [write, keyText, htext]

/-- No character below the blank, so in particular no line break. -/
def OneLine (cs : List Char) : Prop := ∀ c ∈ cs, 0x20 ≤ c.toNat

instance : DecidablePred OneLine := fun cs =>
  decidable_of_iff (cs.all fun c => 0x20 ≤ c.toNat) (by simp [OneLine])

theorem OneLine.append {cs ds : List Char} (hc : OneLine cs) (hd : OneLine ds) :
    OneLine (cs ++ ds) := List.forall_mem_append.mpr ⟨hc, hd⟩

theorem oneLine_escape (c : Char) : OneLine (escape c) := by
  fun_cases escape c with
  | case1 hc => rcases hc with rfl | rfl <;> decide
  | case7 _ _ _ _ _ _ hc =>
    have hall : ∀ n < 0x20, OneLine (Text.hex 4 n) := by decide
    exact .append (by decide) (hall c.toNat hc)
  | case8 _ _ _ _ _ _ hc =>
    intro d hd
    rw [List.mem_singleton.mp hd]
    omega
  | _ => decide

theorem oneLine_quote (s : String) : OneLine (quote s) := by
  have htext : OneLine (s.toList.flatMap escape) := by
    intro c hc
    obtain ⟨d, _, hd⟩ := List.mem_flatMap.mp hc
    exact oneLine_escape d c hd
  have hmark : OneLine ['"'] := by decide
  exact (hmark.append htext).append hmark

theorem oneLine_toString (n : Int) : OneLine (toString n).toList := by
  have hsign : OneLine (minusSign (decide (n < 0))) := by cases decide (n < 0) <;> decide
  rw [toList_toString]
  refine hsign.append fun d hd => ?_
  have hdigit : d.isDigit = true := (whole_toDigits n.natAbs).digit d hd
  have hzero := (Char.isDigit_iff_toNat.mp hdigit).1
  have : '0'.toNat = 48 := rfl
  omega

/-- Written without an indent, the value adds no line break to what follows it. -/
def StaysOneLine (depth : Nat) (v : Value) : Prop :=
  ∀ tail, OneLine tail → OneLine (write none depth tail v)

theorem oneLine_writeItems {depth : Nat} {vs : List Value} (h : ∀ v ∈ vs, StaysOneLine depth v)
    {tail : List Char} (htail : OneLine tail) : OneLine (writeItems none depth tail vs) := by
  induction vs with
  | nil => simpa [writeItems] using htail
  | cons v vs ih =>
    have hrest := h v List.mem_cons_self _ (ih fun w hw => h w (List.mem_cons_of_mem _ hw))
    rw [writeItems]
    exact .append (show OneLine [',', ' '] by decide) hrest

theorem oneLine_writeFields {depth : Nat} {fs : List (String × Value)}
    (h : ∀ f ∈ fs, StaysOneLine depth f.2) {tail : List Char} (htail : OneLine tail) :
    OneLine (writeFields none depth tail (Fields.ofTexts fs)) := by
  induction fs with
  | nil => simpa [writeFields] using htail
  | cons f fs ih =>
    have hrest := h f List.mem_cons_self _ (ih fun g hg => h g (List.mem_cons_of_mem _ hg))
    have hcolon : OneLine [':', ' '] := by decide
    rw [Fields.ofTexts_cons, writeFields]
    exact .append (show OneLine [',', ' '] by decide)
      ((oneLine_quote f.1).append (hcolon.append hrest))

theorem staysOneLine_of_plain {v : Value} (h : v.Plain) (depth : Nat) : StaysOneLine depth v := by
  induction h generalizing depth with
  | null => exact fun tail htail => .append (by decide) htail
  | bool b => exact fun tail htail => .append (by cases b <;> decide) htail
  | int n => exact fun tail htail => (oneLine_toString n).append htail
  | str s => exact fun tail htail => (oneLine_quote s).append htail
  | @arr items _ ih =>
    intro tail htail
    cases items with
    | nil => exact .append (show OneLine ['[', ']'] by decide) htail
    | cons v vs =>
      have hclose : OneLine (']' :: tail) := .append (show OneLine [']'] by decide) htail
      have hrest := oneLine_writeItems
        (fun w hw => ih w (List.mem_cons_of_mem _ hw) (depth + 1)) hclose
      rw [write]
      exact .append (show OneLine ['['] by decide) (ih v List.mem_cons_self (depth + 1) _ hrest)
  | @obj fields _ _ ih =>
    intro tail htail
    cases fields with
    | nil => exact .append (show OneLine ['\x7b', '\x7d'] by decide) htail
    | cons f fs =>
      have hclose : OneLine ('\x7d' :: tail) := .append (show OneLine ['\x7d'] by decide) htail
      have hrest := oneLine_writeFields
        (fun g hg => ih g (List.mem_cons_of_mem _ hg) (depth + 1)) hclose
      have hcolon : OneLine [':', ' '] := by decide
      have hvalue := hcolon.append (ih f List.mem_cons_self (depth + 1) _ hrest)
      rw [Fields.ofTexts_cons, write]
      exact .append (show OneLine ['\x7b'] by decide) ((oneLine_quote f.1).append hvalue)

end Json

section Obstacles
variable {nesting : Json.Nesting} {depth : Nat} {v part : Value} {reason : String}

theorem Decimal.isWritable_iff {n : Int} :
    isWritable n = true ↔ n.natAbs < Nat.pow 10 mostDigits := by
  rw [isWritable, decide_eq_true_iff]

theorem Key.exists_int_of_not_isWritable {k : Key} (h : k.isWritable = false) :
    ∃ n, k = .int n ∧ Decimal.isWritable n = false := by
  cases k with
  | int n => exact ⟨n, rfl, h⟩
  | _ => cases h

namespace Json

theorem obstacleItem?_eq (vs : List Value) :
    obstacleItem? nesting depth vs = vs.findSome? (obstacle? nesting depth) := by
  induction vs with
  | nil => rfl
  | cons v vs ih =>
    rw [obstacleItem?, List.findSome?_cons, ih]
    cases obstacle? nesting depth v <;> rfl

/-- What is found first in a field: a name that is too long, or something in the value. -/
def fieldObstacle? (nesting : Nesting) (depth : Nat) (f : Key × Value) : Option String :=
  if f.1.isWritable then obstacle? nesting depth f.2 else some (Decimal.excess "")

theorem obstacleField?_eq (fields : List (Key × Value)) :
    obstacleField? nesting depth fields = fields.findSome? (fieldObstacle? nesting depth) := by
  induction fields with
  | nil => rfl
  | cons f fields ih =>
    rw [obstacleField?, List.findSome?_cons, ih, fieldObstacle?]
    cases f.1.isWritable with
    | true => cases obstacle? nesting depth f.2 <;> rfl
    | false => rfl

/-- The reason given for a value is that of one of its parts. -/
theorem exists_obstacle (v : Value) {depth : Nat} : obstacle? nesting depth v = some reason →
    ∃ part inner, part.PartAt inner v ∧ Obstacle nesting (depth + inner) part reason := by
  match v with
  | .foreign _ =>
    intro h
    obtain rfl := Option.some.inj h
    exact ⟨_, 0, .self, .foreign _⟩
  | .int n =>
    intro h
    rw [obstacle?] at h
    split at h
    · cases h
    next hlong =>
      obtain rfl := Option.some.inj h
      exact ⟨_, 0, .self, .number (by simpa using hlong)⟩
  | .arr items =>
    intro h
    rw [obstacle?] at h
    split at h
    · rw [obstacleItem?_eq] at h
      obtain ⟨item, mem, hitem⟩ := List.exists_of_findSome?_eq_some h
      obtain ⟨part, inner, hpart, hobstacle⟩ := exists_obstacle item hitem
      exact ⟨part, inner + 1, .item mem hpart, by rwa [← Nat.add_assoc, Nat.add_right_comm]⟩
    next hfull =>
      obtain rfl := Option.some.inj h
      exact ⟨_, 0, .self, .deep rfl (by simpa using hfull)⟩
  | .obj fields =>
    intro h
    rw [obstacle?] at h
    split at h
    · rw [obstacleField?_eq] at h
      obtain ⟨f, mem, hfield⟩ := List.exists_of_findSome?_eq_some h
      unfold fieldObstacle? at hfield
      split at hfield
      · obtain ⟨part, inner, hpart, hobstacle⟩ := exists_obstacle f.2 hfield
        exact ⟨part, inner + 1, .field mem hpart, by rwa [← Nat.add_assoc, Nat.add_right_comm]⟩
      next hname =>
        obtain rfl := Option.some.inj hfield
        obtain ⟨n, hn, hlong⟩ := Key.exists_int_of_not_isWritable (by simpa using hname)
        exact ⟨_, 0, .self, .name (v := f.2) hlong (by rwa [← hn])⟩
    next hfull =>
      obtain rfl := Option.some.inj h
      exact ⟨_, 0, .self, .deep rfl (by simpa using hfull)⟩
  | .null | .bool _ | .real _ | .str _ => exact nofun
termination_by v
decreasing_by
  · have := List.sizeOf_lt_of_mem mem
    simp only [Value.arr.sizeOf_spec]
    omega
  · have := List.sizeOf_lt_of_mem mem
    obtain ⟨k, v⟩ := f
    simp only [Value.obj.sizeOf_spec, Prod.mk.sizeOf_spec] at *
    omega

theorem Obstacle.isSome_obstacle? (h : Obstacle nesting depth v reason) :
    (obstacle? nesting depth v).isSome := by
  cases h with
  | foreign => rfl
  | number long => simp [obstacle?, long]
  | @name n w fields long mem =>
    rw [obstacle?]
    split
    · rw [obstacleField?_eq, List.findSome?_isSome_iff]
      refine ⟨_, mem, ?_⟩
      have hname : Key.isWritable (.int n) = false := long
      simp [fieldObstacle?, hname]
    · rfl
  | deep collection full =>
    cases v with
    | arr items => simp [obstacle?, full]
    | obj fields => simp [obstacle?, full]
    | _ => cases collection

/-- What stands in the way of a part stands in the way of the whole. -/
theorem isSome_obstacle?_of_partAt {inner : Nat} (hpart : part.PartAt inner v)
    (h : (obstacle? nesting (depth + inner) part).isSome) : (obstacle? nesting depth v).isSome := by
  induction hpart generalizing depth with
  | self => exact h
  | item mem _ ih =>
    rw [obstacle?]
    split
    · rw [obstacleItem?_eq, List.findSome?_isSome_iff]
      exact ⟨_, mem, ih (by rwa [Nat.add_right_comm, Nat.add_assoc])⟩
    · rfl
  | @field _ f fields mem _ ih =>
    rw [obstacle?]
    split
    · rw [obstacleField?_eq, List.findSome?_isSome_iff]
      refine ⟨_, mem, ?_⟩
      unfold fieldObstacle?
      split
      · exact ih (by rwa [Nat.add_right_comm, Nat.add_assoc])
      · rfl
    · rfl

theorem Obstacle.isSome_of_partAt (hpart : part.PartAt depth v)
    (h : Obstacle nesting depth part reason) : (obstacle? nesting 0 v).isSome :=
  isSome_obstacle?_of_partAt hpart (by simpa using h.isSome_obstacle?)

end Json

namespace Value

theorem Plain.partAt (plain : v.Plain) (h : part.PartAt depth v) : part.Plain := by
  induction h with
  | self => exact plain
  | item mem _ ih =>
    cases plain with
    | arr items => exact ih (items _ mem)
  | field mem _ ih =>
    cases plain with
    | obj _ values =>
      obtain ⟨g, hg, rfl⟩ := List.mem_map.mp mem
      exact ih (values g hg)

theorem not_plain_foreign : ¬ (foreign reason).Plain := nofun

theorem exists_text_of_plain {fields : List (Key × Value)} (plain : Plain (.obj fields))
    {f : Key × Value} (h : f ∈ fields) : ∃ name, f.1 = .text name := by
  cases plain with
  | obj _ _ =>
    obtain ⟨g, -, rfl⟩ := List.mem_map.mp h
    exact ⟨g.1, rfl⟩

theorem Plain.obstacle?_eq_none (plain : v.Plain) (fits : v.Fits nesting) :
    Json.obstacle? nesting 0 v = none := by
  rw [Option.eq_none_iff_forall_ne_some]
  intro reason h
  obtain ⟨part, depth, hpart, hobstacle⟩ := Json.exists_obstacle v h
  rw [Nat.zero_add] at hobstacle
  cases hobstacle with
  | foreign => exact not_plain_foreign (plain.partAt hpart)
  | number long => simp [fits.short _ _ hpart] at long
  | name _ mem =>
    obtain ⟨name, hname⟩ := exists_text_of_plain (plain.partAt hpart) mem
    cases hname
  | deep collection full => simp [fits.shallow _ _ hpart collection] at full

theorem fits_of_obstacle?_eq_none (h : Json.obstacle? nesting 0 v = none) : v.Fits nesting where
  short n depth hpart := by
    cases hlong : Decimal.isWritable n with
    | true => rfl
    | false =>
      have hobstacle : Json.Obstacle nesting depth (.int n) (Decimal.excess "") := .number hlong
      simpa [h] using hobstacle.isSome_of_partAt hpart
  shallow part depth hpart collection := by
    cases hfull : nesting.admits depth with
    | true => rfl
    | false => simpa [h] using Json.Obstacle.isSome_of_partAt hpart (.deep collection hfull)

end Value
end Obstacles

/-- The text of a plain value stands for it alone, so it is read back whole; without an indent it is
one line. -/
theorem Json.print_of_plain {nesting : Nesting} {v : Value} (plain : v.Plain)
    (fits : v.Fits nesting) (indent : Indent) : ∃ text, print nesting indent v = .ok text ∧
      (∀ w, DenotesText text.toList w ↔ w = v) ∧ read standard text = some v ∧
      (indent = none → ∀ c ∈ text.toList, 0x20 ≤ c.toNat) := by
  obtain ⟨text, hdenotes, hwrite⟩ := written_of_plain plain indent 0
  have hrender : render indent v = text := by simp [render, hwrite]
  have htext : DenotesText text v :=
    ⟨⟨[], text, [], v⟩, by simp [Element.chars], rfl, hdenotes, blank_nil, blank_nil⟩
  refine ⟨String.ofList text, ?_, ?_, read_of_denotesText htext, ?_⟩
  · rw [print, plain.obstacle?_eq_none fits, hrender]
  · intro w
    rw [String.toList_ofList]
    constructor
    · exact fun hw => hw.unique htext
    · rintro rfl
      exact htext
  · rintro rfl
    rw [String.toList_ofList, ← hrender]
    exact staysOneLine_of_plain plain 0 [] (by decide)

/-- The document of a plain value for which there is room stands for that value alone, and so it is
read back whole; without an indent it is one line. A value that holds something that cannot be
written where it stands has no document, and the failure says why. -/
theorem dumpJson_reads_back (nesting : Json.Nesting) (indent : Json.Indent) (v : Value) :
    (v.Plain → v.Fits nesting → ∃ text, dumpJson nesting indent v = .ok text ∧
      (∀ w, Json.DenotesText text.toList w ↔ w = v) ∧ Json.read Json.standard text = some v ∧
      (indent = none → ∀ c ∈ text.toList, 0x20 ≤ c.toNat)) ∧
    ((∃ part depth reason, part.PartAt depth v ∧ Json.Obstacle nesting depth part reason) →
      ∃ part depth reason, part.PartAt depth v ∧ Json.Obstacle nesting depth part reason ∧
        dumpJson nesting indent v = .error (.serialization reason) ∧
        (Failure.serialization reason).code.name = "EXTRACT_SERIALIZATION_FAILED") := by
  constructor
  · intro plain fits
    obtain ⟨text, hprint, hread⟩ := Json.print_of_plain plain fits indent
    refine ⟨text, ?_, hread⟩
    rw [dumpJson, Encoder.document, Encoder.standard, hprint]
    rfl
  · rintro ⟨part, depth, reason, hpart, hobstacle⟩
    obtain ⟨first, hfirst⟩ := Option.isSome_iff_exists.mp (hobstacle.isSome_of_partAt hpart)
    obtain ⟨part, depth, hpart, hobstacle⟩ := Json.exists_obstacle v hfirst
    refine ⟨part, depth, first, hpart, by simpa using hobstacle, ?_, rfl⟩
    rw [dumpJson, Encoder.document, Encoder.standard, Json.print, hfirst]
    rfl

namespace NestedDocument

/-- Escapes, a long integer and empty containers. -/
def items : List Value :=
  [.null, .bool true, .int (-12345678901234567890), .obj [], .str "\x01/é\\"]

def value : Value := .obj (Fields.ofTexts [("a\n\"", .arr items), ("", .arr [])])

def set : Value := .foreign (Json.unknownClass "set")

/-- A set inside an object inside an array. -/
def holder : Value := .arr [.str "x", .obj [("k", set)]]

theorem plain : value.Plain := by
  have hempty : Value.Plain (.obj (Fields.ofTexts [])) := .obj (by simp) (by simp)
  have hitems : ∀ v ∈ items, v.Plain := by
    simp only [items, List.forall_mem_cons]
    exact ⟨.null, .bool true, .int _, hempty, .str _, by simp⟩
  refine .obj (by decide) ?_
  simp only [List.forall_mem_cons]
  exact ⟨.arr hitems, .arr (by simp), by simp⟩

theorem read_back :
    value.Plain ∧ value.Fits { most := some 3 } ∧
    (∃ text, dumpJson { most := some 3 } (some 2) value = .ok text ∧
      (∀ w, Json.DenotesText text.toList w ↔ w = value) ∧
      Json.read Json.standard text = some value) ∧
    set.PartAt 2 holder ∧ Json.Obstacle {} 2 set (Json.unknownClass "set") ∧
    ∃ reason, dumpJson {} none holder = .error (.serialization reason) := by
  have fits : value.Fits { most := some 3 } := Value.fits_of_obstacle?_eq_none (by decide +kernel)
  have hset : set.PartAt 2 holder :=
    .item (v := .obj [("k", set)]) (by simp) (.field List.mem_cons_self .self)
  have hobstacle : Json.Obstacle {} 2 set (Json.unknownClass "set") := .foreign _
  obtain ⟨text, hdump, hdenotes, hread, _⟩ :=
    (dumpJson_reads_back { most := some 3 } (some 2) value).1 plain fits
  obtain ⟨_, _, reason, _, _, hfail, _⟩ :=
    (dumpJson_reads_back {} none holder).2 ⟨_, _, _, hset, hobstacle⟩
  exact ⟨plain, fits, ⟨text, hdump, hdenotes, hread⟩, hset, hobstacle, reason, hfail⟩

end NestedDocument

namespace LongInteger

/-- The smallest integer of 4301 digits. -/
def value : Value := .int (Nat.pow 10 Decimal.mostDigits)

theorem not_written : value.Plain ∧
    dumpJson {} none value = .error (.serialization (Decimal.excess "")) ∧
    ¬ ∃ text, dumpJson {} none value = .ok text := by
  have hlong : ¬ Decimal.isWritable (Nat.pow 10 Decimal.mostDigits) = true := by
    rw [Decimal.isWritable_iff, Int.natAbs_natCast]
    exact Nat.lt_irrefl _
  have hobstacle : Json.obstacle? {} 0 value = some (Decimal.excess "") := by
    rw [value, Json.obstacle?, if_neg hlong]
  have hfail : dumpJson {} none value = .error (.serialization (Decimal.excess "")) := by
    rw [dumpJson, Encoder.document, Encoder.standard, Json.print, hobstacle]
    rfl
  refine ⟨.int _, hfail, ?_⟩
  rintro ⟨text, htext⟩
  cases hfail.symm.trans htext

end LongInteger
end RustOutline
