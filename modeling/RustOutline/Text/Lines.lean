import RustOutline.Text.Blank

/-! Lines of a text: display lines end at any line break, source lines at a newline only. -/
namespace RustOutline.Text

/-- Characters at which a display line ends. All of them are blank. -/
def isBreak (c : Char) : Bool :=
  let n := c.toNat
  (10 ≤ n && n ≤ 13) || (28 ≤ n && n ≤ 30) || n == 0x85 || n == 0x2028 || n == 0x2029

def firstLine (cs : List Char) : List Char := cs.takeWhile fun c => !isBreak c

/-- Source lines; the last one is what follows the last newline, possibly nothing. -/
def lines : List Char → List (List Char)
  | [] => [[]]
  | c :: cs =>
    if c = '\n' then [] :: lines cs
    else match lines cs with
      | [] => [[c]]
      | l :: ls => (c :: l) :: ls

def completeLines (cs : List Char) : List (List Char) := (lines cs).dropLast

/-- A carriage return, alone or before a newline, reads as one newline. -/
def unifyNewlines : List Char → List Char
  | [] => []
  | '\r' :: '\n' :: cs => '\n' :: unifyNewlines cs
  | c :: cs => (if c = '\r' then '\n' else c) :: unifyNewlines cs

def joinLines (ls : List String) : String := "\n".intercalate ls

end RustOutline.Text
