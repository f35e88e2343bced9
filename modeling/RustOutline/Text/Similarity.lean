/-! How alike two words are: by the characters in the longest common run, and in the runs to the
left and to the right of it. -/
namespace RustOutline.Text

/-- A common run of two words: its length and where it starts in each. -/
structure Run where
  size : Nat := 0
  left : Nat := 0
  right : Nat := 0
deriving DecidableEq, Repr, Inhabited

/-- Lengths of the common runs that end with a character of the first word, at each place of the
second; `above` holds those of the character before, one place back. -/
def runLengths (skip : Char → Bool) (c : Char) : List Nat → List Char → List Nat
  | above, d :: ds =>
    let before := above.head?.getD 0
    (if c = d && !skip d then before + 1 else 0) :: runLengths skip c (above.drop 1) ds
  | _, [] => []

def Run.max (a b : Run) : Run := if a.size < b.size then b else a

def longestAt (i : Nat) (lengths : List Nat) : Run :=
  (lengths.zipIdx.map fun (size, j) => ⟨size, i + 1 - size, j + 1 - size⟩).foldl Run.max {}

def longestFrom (skip : Char → Bool) (b : List Char) (i : Nat) (above : List Nat) :
    List Char → Run
  | [] => {}
  | c :: cs =>
    let lengths := runLengths skip c (0 :: above) b
    (longestAt i lengths).max (longestFrom skip b (i + 1) lengths cs)

def sharedStart : List Char → List Char → Nat
  | a :: as, b :: bs => if a = b then sharedStart as bs + 1 else 0
  | _, _ => 0

/-- The longest common run. Characters that are skipped start no run, but they prolong one. -/
def longestRun (skip : Char → Bool) (a b : List Char) : Run :=
  let r := longestFrom skip b 0 [] a
  let back := sharedStart (a.take r.left).reverse (b.take r.right).reverse
  let ahead := sharedStart (a.drop (r.left + r.size)) (b.drop (r.right + r.size))
  ⟨back + r.size + ahead, r.left - back, r.right - back⟩

def matched (skip : Char → Bool) : Nat → List Char → List Char → Nat
  | 0, _, _ => 0
  | fuel + 1, a, b =>
    let r := longestRun skip a b
    if r.size = 0 then 0
    else matched skip fuel (a.take r.left) (b.take r.right) + r.size +
      matched skip fuel (a.drop (r.left + r.size)) (b.drop (r.right + r.size))

/-- In a long word, characters that make up more than a hundredth of it do not tell it apart. -/
def isCommon (word : List Char) (c : Char) : Bool :=
  200 ≤ word.length && word.length / 100 + 1 < word.count c

structure Likeness where
  word : String
  matched : Nat
  total : Nat
deriving DecidableEq, Repr, Inhabited

namespace Likeness

def ofWords (unknown known : String) : Likeness :=
  let a := known.toList
  let b := unknown.toList
  ⟨known, 2 * Text.matched (isCommon b) (a.length + 1) a b, a.length + b.length⟩

def isClose (l : Likeness) : Bool := 3 * l.total ≤ 5 * l.matched

/-- By their share of matched characters; of equal shares the later word comes first. -/
def before (a b : Likeness) : Bool :=
  let x := a.matched * b.total
  let y := b.matched * a.total
  y < x || (x == y && !decide (a.word < b.word))

end Likeness

/-- The three known words that are closest to an unknown one, in alphabetical order. -/
def closest (known : List String) (unknown : String) : List String :=
  let close := (known.map (Likeness.ofWords unknown)).filter Likeness.isClose
  let best := ((close.mergeSort Likeness.before).take 3).map Likeness.word
  best.mergeSort fun a b => !decide (b < a)

end RustOutline.Text
