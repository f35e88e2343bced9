import RustOutline.Text.Lines
import RustOutline.Utf8

/-! Text that is read from bytes a stretch at a time, with all line ends made one. A malformed
stretch is found only when its part of the bytes is read, and its position is counted from there. -/
namespace RustOutline.Utf8

/-- The characters of bytes that may break off within the last one; that one is left over. So are
two bytes of a surrogate, which is only refused as a whole. -/
def collectOpen (position : Nat) : List Chunk → Except Malformed (List Char × Bytes)
  | [] => .ok ([], [])
  | [.malformed bytes .unexpectedEnd] => .ok ([], bytes)
  | [.malformed [a] fault, .malformed [b] .invalidStart] =>
    if a = 0xED ∧ 0xA0 ≤ b ∧ b ≤ 0xBF then .ok ([], [a, b]) else .error ⟨position, [a], fault⟩
  | .scalar c :: rest =>
    (collectOpen (position + c.utf8Size) rest).map fun (cs, left) => (c :: cs, left)
  | .malformed bytes fault :: _ => .error ⟨position, bytes, fault⟩

structure Stream where
  bytes : Bytes
  /-- The start of a character whose other bytes are not read yet. -/
  pending : Bytes := []
  /-- A carriage return is held back, since a newline may follow it. -/
  held : Bool := false
  /-- Characters that are decoded and not given out yet. -/
  ready : List Char := []
  /-- How many bytes made how many characters the last time. -/
  ratio : Nat × Nat := (0, 1)
deriving Inhabited

namespace Stream

def stretch : Nat := 8192

/-- Decodes the next stretch of bytes for some characters that are wanted; `none` at the end. -/
def fill (wanted : Nat) (s : Stream) : Except Malformed (Option Stream) := do
  let taken := s.bytes.take (max stretch (wanted * s.ratio.1 / s.ratio.2))
  let last := taken.isEmpty
  let (cs, pending) ← if last then (collect 0 (chunks s.pending)).map fun cs => (cs, [])
    else collectOpen 0 (chunks (s.pending ++ taken))
  let due := s.held && (last || !cs.isEmpty)
  let cs := if due then '\r' :: cs else cs
  let held := !last && cs.getLast? == some '\r'
  let cs := Text.unifyNewlines (if held then cs.dropLast else cs)
  if last && cs.isEmpty then return none
  return some {
    bytes := s.bytes.drop taken.length
    pending
    held := held || (s.held && !due)
    ready := s.ready ++ cs
    ratio := if cs.isEmpty then (0, 1) else (taken.length, cs.length) }

/-- Characters from the front, as many as there are of those that are wanted. Every step but the
last ones takes bytes. -/
def readWith (wanted : Nat) : Nat → Stream → Except Malformed (List Char × Stream)
  | 0, s => .ok (s.ready, { s with ready := [] })
  | fuel + 1, s =>
    if wanted ≤ s.ready.length then
      .ok (s.ready.take wanted, { s with ready := s.ready.drop wanted })
    else do
      match ← s.fill (wanted - s.ready.length) with
      | some next => readWith wanted fuel next
      | none => return (s.ready, { s with ready := [] })

def read (wanted : Nat) (s : Stream) : Except Malformed (List Char × Stream) :=
  readWith wanted (s.bytes.length + 2) s

def portion : Nat := 4096

def piecesWith : Nat → Stream → List (List Char) × Option Malformed
  | 0, _ => ([], none)
  | fuel + 1, s => match s.read portion with
    | .error m => ([], some m)
    | .ok ([], _) => ([], none)
    | .ok (piece, rest) =>
      let (pieces, ending) := piecesWith fuel rest
      (piece :: pieces, ending)

end Stream

def pieces (bs : Bytes) : List (List Char) × Option Malformed :=
  Stream.piecesWith bs.length.succ { bytes := bs }

end RustOutline.Utf8
