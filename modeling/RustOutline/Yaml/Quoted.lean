import RustOutline.Json.Reader
import RustOutline.Yaml.Fault

/-! Quoted YAML scalars. A line end inside one is folded: it reads as a blank, or as the empty lines
that follow it. -/
namespace RustOutline.Yaml

def isBreak (c : Char) : Bool := c = '\n' || c = '\x85' || c = '\u2028' || c = '\u2029'

def breakChar (c : Char) : Char := if c = '\x85' then '\n' else c

def isBlank (c : Char) : Bool := c = ' ' || c = '\t'

def atGap : List Char → Bool
  | [] => true
  | c :: _ => isBlank c || isBreak c

def isDocumentStart : List Char → Bool
  | '-' :: '-' :: '-' :: rest => atGap rest
  | _ => false

def isDocumentEnd : List Char → Bool
  | '.' :: '.' :: '.' :: rest => atGap rest
  | _ => false

def isDocumentMark (cs : List Char) : Bool := isDocumentStart cs || isDocumentEnd cs

def fold (first : Char) (more : List Char) : List Char :=
  if breakChar first ≠ '\n' then first :: more
  else if more.isEmpty then [' '] else more

def quotedBreaks (lineStart : Bool) : List Char → Except Fault (List Char × List Char)
  | [] => .ok ([], [])
  | c :: cs =>
    if lineStart && isDocumentMark (c :: cs) then .error .misplaced
    else if isBlank c then quotedBreaks false cs
    else if isBreak c then (quotedBreaks true cs).map fun (bs, r) => (breakChar c :: bs, r)
    else .ok ([], c :: cs)

def escapes : List (Char × Nat) := [
  ('0', 0), ('a', 7), ('b', 8), ('t', 9), ('\t', 9), ('n', 10), ('v', 11), ('f', 12), ('r', 13),
  ('e', 27), (' ', 32), ('"', 34), ('/', 47), ('\\', 92), ('N', 0x85), ('_', 0xA0),
  ('L', 0x2028), ('P', 0x2029)]

def hexWidth? (c : Char) : Option Nat :=
  if c = 'x' then some 2 else if c = 'u' then some 4 else if c = 'U' then some 8 else none

def character (width : Nat) (cs : List Char) : Except Fault Char :=
  let ds := (cs.take width).filterMap Json.hexValue?
  let n := ds.foldl (fun n d => n * 16 + d) 0
  if ds.length < width then .error (if ds.length = cs.length then .unclosed else .badEscape)
  else if n < 0x110000 then .ok (Char.ofNat n)
  else if n < 0x80000000 then .error .noCharacter
  else .error .wideCharacter

/-- What an escape after its backslash stands for, and the rest. A line end that is escaped stands
for nothing. -/
def escaped : List Char → Except Fault (List Char × List Char)
  | [] => .error .unclosed
  | c :: cs =>
    match hexWidth? c with
    | some width => (character width cs).map fun ch => ([ch], cs.drop width)
    | none =>
      if isBreak c then quotedBreaks true cs
      else match escapes.lookup c with
        | some n => .ok ([Char.ofNat n], cs)
        | none => .error .badEscape

/-- The characters of a scalar after its opening quote, and the rest after the closing one. A quote
in single quotes is written twice. -/
def quotedText (double : Bool) : Nat → List Char → Except Fault (List Char × List Char)
  | 0, _ => .error .unclosed
  | _, [] => .error .unclosed
  | fuel + 1, c :: cs =>
    let append (taken rest : List Char) : Except Fault (List Char × List Char) :=
      (quotedText double fuel rest).map fun (more, r) => (taken ++ more, r)
    if isBlank c then
      match cs.dropWhile isBlank with
      | [] => .error .unclosed
      | b :: rest =>
        if isBreak b then append [] (b :: rest) else append (c :: cs.takeWhile isBlank) (b :: rest)
    else if isBreak c then do
      let (more, rest) ← quotedBreaks true cs
      append (fold c more) rest
    else if double then
      if c = '"' then .ok ([], cs)
      else if c = '\\' then do
        let (taken, rest) ← escaped cs
        append taken rest
      else append [c] cs
    else if c = '\'' then
      match cs with
      | '\'' :: rest => append ['\''] rest
      | rest => .ok ([], rest)
    else append [c] cs

def quoted (double : Bool) (cs : List Char) : Except Fault (String × List Char) :=
  (quotedText double cs.length.succ cs).map fun (text, rest) => (String.ofList text, rest)

end RustOutline.Yaml
