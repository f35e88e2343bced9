import RustOutline.Yaml.Quoted

/-! Plain YAML scalars: where an unquoted scalar starts, where it ends, and its text over several
lines. -/
namespace RustOutline.Yaml

def isBracket (c : Char) : Bool := ['[', ']', '\x7b', '\x7d'].contains c

def isReserved (c : Char) : Bool :=
  isBracket c ||
    [',', '#', '&', '*', '!', '|', '>', '\'', '"', '%', '@', '\x60'].contains c

/-- A plain scalar starts here. Within brackets `?` and `:` are always marks. -/
def startsPlain (flow : Bool) (c : Char) (cs : List Char) : Bool :=
  if isBlank c || isBreak c || isReserved c then false
  else if c = '-' then !atGap cs
  else if c = '?' || c = ':' then !flow && !atGap cs
  else true

/-- A word of a plain scalar ends before the character: at a gap, at a colon before a gap, and
within brackets at a mark of theirs. -/
def endsWord (flow : Bool) (c : Char) (cs : List Char) : Bool :=
  isBlank c || isBreak c ||
    (c = ':' && (atGap cs || flow && cs.head?.any fun d => d = ',' || isBracket d)) ||
    (flow && (c = ',' || c = '?' || isBracket c))

def plainWord (flow : Bool) : List Char → List Char × List Char
  | [] => ([], [])
  | c :: cs =>
    if endsWord flow c cs then ([], c :: cs)
    else let (word, rest) := plainWord flow cs; (c :: word, rest)

/-- What stands between two words of a plain scalar: its text, the column of the second word if it
is on a new line, and the rest. -/
structure Gap where
  text : List Char
  column : Option Nat
  rest : List Char
deriving DecidableEq, Repr

def plainBreaks (column : Nat) : List Char → Option (List Char) × Nat × List Char
  | [] => (some [], column, [])
  | c :: cs =>
    if column = 0 && isDocumentMark (c :: cs) then (none, 0, c :: cs)
    else if c = ' ' then plainBreaks (column + 1) cs
    else if isBreak c then
      let (bs, column, rest) := plainBreaks 0 cs
      (bs.map (breakChar c :: ·), column, rest)
    else (some [], column, c :: cs)

def plainGap (cs : List Char) : Gap :=
  match cs.dropWhile (· == ' ') with
  | [] => ⟨cs, none, []⟩
  | b :: rest =>
    if isBreak b then
      match plainBreaks 0 rest with
      | (some more, column, rest) => ⟨fold b more, some column, rest⟩
      | (none, column, rest) => ⟨[], some column, rest⟩
    else ⟨cs.takeWhile (· == ' '), none, b :: rest⟩

structure Plain where
  text : List Char
  /-- The last word is followed by a line end. -/
  endsLine : Bool
  rest : List Char
deriving DecidableEq, Repr

/-- The words of a plain scalar. Outside brackets it ends before a word on a new line that stands to
the left of column `least`; everywhere it ends before a comment. -/
def plainText (flow : Bool) (least : Nat) : Nat → List Char → Plain
  | 0, cs => ⟨[], false, cs⟩
  | fuel + 1, cs =>
    match plainWord flow cs with
    | ([], rest) => ⟨[], false, rest⟩
    | (word, rest) =>
      let gap := plainGap rest
      let stop : Plain := ⟨word, gap.column.isSome, gap.rest⟩
      if gap.text.isEmpty || gap.rest.head? == some '#' ||
          (!flow && gap.column.any (· < least)) then stop
      else
        let more := plainText flow least fuel gap.rest
        if more.text.isEmpty then stop
        else { more with text := word ++ gap.text ++ more.text }

def plain (flow : Bool) (least : Nat) (cs : List Char) : Plain :=
  plainText flow least cs.length.succ cs

end RustOutline.Yaml
