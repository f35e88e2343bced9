import RustOutline.Yaml.Plain

/-! Tokens of a YAML text. Block collections are found by indentation; that a scalar or a bracketed
value is a key shows only at the colon after it. Anchors, tags, directives and block scalars are
outside the accepted subset, so an alias never has a meaning. -/
namespace RustOutline.Yaml

inductive Token where
  | documentStart
  | documentEnd
  | listStart
  | mappingStart
  | blockEnd
  | flowListStart
  | flowListEnd
  | flowMappingStart
  | flowMappingEnd
  | entry
  | key
  | value
  | comma
  | scalar (plain : Bool) (text : String)
  | alias
  /-- What follows cannot be taken apart. -/
  | fault (f : Fault)
deriving DecidableEq, Repr, Inhabited

structure Cursor where
  rest : List Char
  index : Nat := 0
  line : Nat := 0
  column : Nat := 0
deriving DecidableEq, Repr, Inhabited

namespace Cursor

/-- One character further. A byte order mark has no width. -/
def next (c : Cursor) : Cursor :=
  match c.rest with
  | [] => c
  | ch :: rest =>
    if isBreak ch then ⟨rest, c.index + 1, c.line + 1, 0⟩
    else ⟨rest, c.index + 1, c.line, if ch = '\uFEFF' then c.column else c.column + 1⟩

def forward (c : Cursor) : Nat → Cursor
  | 0 => c
  | n + 1 => c.next.forward n

def moveTo (c : Cursor) (rest : List Char) : Cursor := c.forward (c.rest.length - rest.length)

end Cursor

/-- Something that may turn out to be a key: the number of its first token and where it starts. At
the indentation of a mapping it has to be one. -/
structure Candidate where
  number : Nat
  required : Bool
  index : Nat
  line : Nat
  column : Nat
deriving DecidableEq, Repr, Inhabited

def mostKeyLength : Nat := 1024

structure Scanner where
  cursor : Cursor
  /-- Columns of the open block collections, the innermost first. -/
  blocks : List Nat := []
  keyAllowed : Bool := true
  /-- On this level of brackets, and on the levels around it. -/
  candidate : Option Candidate := none
  outer : List (Option Candidate) := []
  /-- The tokens so far, the last one first. -/
  tokens : List Token := []
  /-- The text goes on, but what follows cannot be read. -/
  cut : Option Fault := none
deriving Inhabited

namespace Scanner

def inFlow (s : Scanner) : Bool := !s.outer.isEmpty

def emit (t : Token) (s : Scanner) : Scanner := { s with tokens := t :: s.tokens }

def insert (number : Nat) (t : Token) (s : Scanner) : Scanner :=
  let later := s.tokens.length - number
  { s with tokens := s.tokens.take later ++ t :: s.tokens.drop later }

def moveTo (rest : List Char) (s : Scanner) : Scanner := { s with cursor := s.cursor.moveTo rest }

def closeBlocks (column : Nat) (s : Scanner) : Scanner :=
  if s.inFlow then s
  else
    let closed := s.blocks.takeWhile (column < ·)
    { s with
      blocks := s.blocks.drop closed.length
      tokens := closed.map (fun _ => .blockEnd) ++ s.tokens }

def closeAll (s : Scanner) : Scanner :=
  if s.inFlow then s
  else { s with blocks := [], tokens := s.blocks.map (fun _ => .blockEnd) ++ s.tokens }

def opens (column : Nat) (s : Scanner) : Bool := s.blocks.head?.all (· < column)

def forget (s : Scanner) : Except Fault Scanner :=
  if s.candidate.any Candidate.required then .error .keyTooLong
  else .ok { s with candidate := none }

def isStale (cursor : Cursor) (c : Candidate) : Bool :=
  c.line != cursor.line || decide (mostKeyLength < cursor.index - c.index)

def dropStale (s : Scanner) : Except Fault Scanner :=
  let stale := isStale s.cursor
  if (s.candidate :: s.outer).any fun c => c.any fun c => c.required && stale c then
    .error .keyTooLong
  else
    let fresh (c : Option Candidate) : Option Candidate := c.filter fun c => !stale c
    .ok { s with candidate := fresh s.candidate, outer := s.outer.map fresh }

def remember (s : Scanner) : Except Fault Scanner :=
  if s.keyAllowed then do
    let s ← s.forget
    let here := s.cursor
    return { s with candidate := some {
      number := s.tokens.length
      required := !s.inFlow && s.blocks.head? == some here.column
      index := here.index
      line := here.line
      column := here.column } }
  else .ok s

def skipGaps (comment : Bool) : List Char → Bool × List Char
  | [] => (false, [])
  | c :: cs =>
    if isBreak c then (true, (skipGaps false cs).2)
    else if comment then skipGaps true cs
    else if c = ' ' then skipGaps false cs
    else if c = '#' then skipGaps true cs
    else (false, c :: cs)

def toToken (s : Scanner) : Except Fault Scanner := do
  let (crossed, rest) := skipGaps false s.cursor.rest
  let s := s.moveTo rest
  let s ← { s with keyAllowed := s.keyAllowed || crossed && !s.inFlow }.dropStale
  return s.closeBlocks s.cursor.column

def documentMark (t : Token) (s : Scanner) : Except Fault Scanner := do
  let s ← s.closeAll.forget
  return { s.emit t with keyAllowed := false, cursor := s.cursor.forward 3 }

def openBracket (t : Token) (rest : List Char) (s : Scanner) : Except Fault Scanner := do
  let s ← s.remember
  return { (s.emit t).moveTo rest with
    keyAllowed := true, candidate := none, outer := s.candidate :: s.outer }

def closeBracket (t : Token) (rest : List Char) (s : Scanner) : Except Fault Scanner :=
  match s.outer with
  | [] => .error .misplaced
  | candidate :: outer => .ok { (s.emit t).moveTo rest with keyAllowed := false, candidate, outer }

def comma (rest : List Char) (s : Scanner) : Except Fault Scanner := do
  let s ← s.forget
  return { (s.emit .comma).moveTo rest with keyAllowed := true }

/-- Opens a block collection at the current column; outside brackets its first mark must stand where
a key is allowed. -/
def openBlock (start : Token) (s : Scanner) : Except Fault Scanner :=
  if s.inFlow then .ok s
  else if !s.keyAllowed then .error .misplaced
  else
    let column := s.cursor.column
    .ok (if s.opens column then { s.emit start with blocks := column :: s.blocks } else s)

def entryMark (rest : List Char) (s : Scanner) : Except Fault Scanner := do
  let s ← s.openBlock .listStart
  let s ← s.forget
  return { (s.emit .entry).moveTo rest with keyAllowed := true }

def keyMark (rest : List Char) (s : Scanner) : Except Fault Scanner := do
  let s ← s.openBlock .mappingStart
  let s ← s.forget
  return { (s.emit .key).moveTo rest with keyAllowed := !s.inFlow }

/-- The mark `:` before a value. If there is a candidate, it is the key. -/
def valueMark (rest : List Char) (s : Scanner) : Except Fault Scanner :=
  match s.candidate with
  | some c =>
    let opening := !s.inFlow && s.opens c.column
    let s := s.insert c.number .key
    let s := if opening
      then { s.insert c.number .mappingStart with blocks := c.column :: s.blocks } else s
    .ok { (s.emit .value).moveTo rest with candidate := none, keyAllowed := false }
  | none => do
    let s ← s.openBlock .mappingStart
    return { (s.emit .value).moveTo rest with keyAllowed := !s.inFlow }

def quotedScalar (double : Bool) (rest : List Char) (s : Scanner) : Except Fault Scanner := do
  let s ← s.remember
  let (text, rest) ← quoted double rest
  return { (s.emit (.scalar false text)).moveTo rest with keyAllowed := false }

def plainScalar (s : Scanner) : Except Fault Scanner := do
  let s ← s.remember
  let least := match s.blocks with
    | [] => 0
    | column :: _ => column + 1
  let p := plain s.inFlow least s.cursor.rest
  return { (s.emit (.scalar true (String.ofList p.text))).moveTo p.rest with
    keyAllowed := p.endsLine }

def isNameChar (c : Char) : Bool := c.isAlphanum || c = '-' || c = '_'

def endsName : List Char → Bool
  | [] => true
  | c :: cs => atGap (c :: cs) || ['?', ':', ',', ']', '\x7d', '%', '@', '\x60'].contains c

def aliasName (rest : List Char) (s : Scanner) : Except Fault Scanner := do
  let s ← s.remember
  let after := rest.dropWhile isNameChar
  if after.length == rest.length || !endsName after then throw .misplaced
  return { (s.emit .alias).moveTo after with keyAllowed := false }

def step (s : Scanner) : Except Fault (Option Scanner) := do
  let s ← s.toToken
  let cs := s.cursor.rest
  match cs with
  | [] => return none
  | c :: rest =>
    let atStart := s.cursor.column == 0
    let s ←
      if atStart && isDocumentStart cs then s.documentMark .documentStart
      else if atStart && isDocumentEnd cs then s.documentMark .documentEnd
      else if c = '[' then s.openBracket .flowListStart rest
      else if c = '\x7b' then s.openBracket .flowMappingStart rest
      else if c = ']' then s.closeBracket .flowListEnd rest
      else if c = '\x7d' then s.closeBracket .flowMappingEnd rest
      else if c = ',' then s.comma rest
      else if c = '-' && atGap rest then s.entryMark rest
      else if c = '?' && (s.inFlow || atGap rest) then s.keyMark rest
      else if c = ':' && (s.inFlow || atGap rest) then s.valueMark rest
      else if c = '*' then s.aliasName rest
      else if c = '\'' then s.quotedScalar false rest
      else if c = '"' then s.quotedScalar true rest
      else if startsPlain s.inFlow c rest then s.plainScalar
      else .error .misplaced
    return some s

/-- How many tokens are settled: those in front of anything that may still become a key. -/
def settled (s : Scanner) : Nat :=
  ((s.candidate :: s.outer).filterMap fun c => (c.filter fun c => !isStale s.cursor c).map
    Candidate.number).foldl min s.tokens.length

def stop (f : Fault) (s : Scanner) : List Token := s.tokens.reverse.take s.settled ++ [.fault f]

def finish (s : Scanner) : List Token :=
  match s.toToken >>= fun s => s.closeAll.forget with
  | .ok done => done.tokens.reverse
  | .error f => s.stop f

def meetsEnd (s : Scanner) : Except Fault (Option Scanner) → Bool
  | .ok (some next) => next.cursor.rest.isEmpty
  | .ok none => true
  | .error f => f == .unclosed || (skipGaps false s.cursor.rest).2.isEmpty

/-- All tokens; each step takes at least one character. Whoever reads a token has also seen the
character after it, so nothing is read up to a place where the text cannot be read. -/
def run : Nat → Scanner → List Token
  | 0, s => s.stop .misplaced
  | fuel + 1, s =>
    let outcome := s.step
    match s.cut.filter fun _ => s.meetsEnd outcome with
    | some f => s.stop f
    | none => match outcome with
      | .ok (some next) => run fuel next
      | .ok none => s.finish
      | .error f => s.stop f

end Scanner

def tokens (cs : List Char) (cut : Option Fault) : List Token :=
  Scanner.run cs.length.succ { cursor := { rest := cs }, cut }

end RustOutline.Yaml
