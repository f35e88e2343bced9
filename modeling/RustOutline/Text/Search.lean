namespace RustOutline.Text

def afterFirst? (needle : List Char) : List Char → Option (List Char)
  | [] => if needle.isEmpty then some [] else none
  | c :: cs =>
    if needle.isPrefixOf (c :: cs) then some ((c :: cs).drop needle.length)
    else afterFirst? needle cs

/-- Some part of the second text is the first. The empty text occurs everywhere. -/
def occursIn (needle text : List Char) : Bool := (afterFirst? needle text).isSome

theorem occursIn_iff {needle text : List Char} : occursIn needle text = true ↔ needle <:+: text := by
  unfold occursIn
  induction text with
  | nil => simp [afterFirst?, apply_ite Option.isSome]
  | cons c cs ih =>
    rw [afterFirst?, List.infix_cons_iff, ← List.isPrefixOf_iff_prefix]
    split
    · next h => simp [h]
    · next h => simp [h, ih]

def startsWith (start text : String) : Bool := start.toList.isPrefixOf text.toList

end RustOutline.Text
