/-! UTF-8 over lists of bytes. Decoding reads one byte at a time; a malformed stretch is a
maximal start of a well-formed sequence, or a byte that can start none. -/
namespace RustOutline.Utf8

abbrev Bytes := List UInt8

inductive Fault where
  | invalidStart
  | invalidContinuation
  | unexpectedEnd
deriving DecidableEq, Repr

def Fault.reason : Fault → String
  | .invalidStart => "invalid start byte"
  | .invalidContinuation => "invalid continuation byte"
  | .unexpectedEnd => "unexpected end of data"

inductive Chunk where
  | scalar (c : Char)
  | malformed (bytes : Bytes) (fault : Fault)
deriving DecidableEq, Repr

/-- Between two bytes: outside any sequence, or inside one whose next byte must lie in
`low..high` with `left` more after it. -/
inductive State where
  | start
  | inside (seen : Bytes) (low high : UInt8) (left code : Nat)
deriving DecidableEq, Repr

def lead (b : UInt8) : List Chunk × State :=
  if b < 0x80 then ([.scalar (Char.ofNat b.toNat)], .start)
  else if b < 0xC2 then ([.malformed [b] .invalidStart], .start)
  else if b < 0xE0 then ([], .inside [b] 0x80 0xBF 0 (b.toNat - 0xC0))
  else if b = 0xE0 then ([], .inside [b] 0xA0 0xBF 1 0)
  else if b = 0xED then ([], .inside [b] 0x80 0x9F 1 0xD)
  else if b < 0xF0 then ([], .inside [b] 0x80 0xBF 1 (b.toNat - 0xE0))
  else if b = 0xF0 then ([], .inside [b] 0x90 0xBF 2 0)
  else if b < 0xF4 then ([], .inside [b] 0x80 0xBF 2 (b.toNat - 0xF0))
  else if b = 0xF4 then ([], .inside [b] 0x80 0x8F 2 4)
  else ([.malformed [b] .invalidStart], .start)

/-- A byte that cannot continue the open sequence closes it and is read anew. -/
def step : State → UInt8 → List Chunk × State
  | .start, b => lead b
  | .inside seen low high left code, b =>
    if low ≤ b ∧ b ≤ high then
      let code := code * 64 + b.toNat % 64
      match left with
      | 0 => ([.scalar (Char.ofNat code)], .start)
      | n + 1 => ([], .inside (seen ++ [b]) 0x80 0xBF n code)
    else
      let (chunks, next) := lead b
      (.malformed seen .invalidContinuation :: chunks, next)

def run : State → Bytes → List Chunk
  | .start, [] => []
  | .inside seen _ _ _ _, [] => [.malformed seen .unexpectedEnd]
  | s, b :: bs =>
    let (chunks, next) := step s b
    chunks ++ run next bs

def chunks (bs : Bytes) : List Chunk := run .start bs

/-- A malformed stretch reads as U+FFFD. -/
def Chunk.char : Chunk → Char
  | .scalar c => c
  | .malformed _ _ => '\uFFFD'

def decodeChars (bs : Bytes) : List Char := (chunks bs).map Chunk.char

def decode (bs : Bytes) : String := String.ofList (decodeChars bs)

def encodeChars (cs : List Char) : Bytes := cs.flatMap String.utf8EncodeChar

def encode (s : String) : Bytes := encodeChars s.toList

structure Malformed where
  position : Nat
  bytes : Bytes
  fault : Fault
deriving DecidableEq, Repr

def hexDigit (n : Nat) : Char := (Nat.digitChar n)

def Malformed.message (m : Malformed) : String :=
  let spot := match m.bytes with
    | [b] => "byte 0x" ++ String.ofList [hexDigit (b.toNat / 16), hexDigit (b.toNat % 16)] ++
        s!" in position {m.position}"
    | bs => s!"bytes in position {m.position}-{m.position + bs.length - 1}"
  s!"'utf-8' codec can't decode {spot}: {m.fault.reason}"

/-- Characters read from `position` on, or the first stretch that has none. -/
def collect (position : Nat) : List Chunk → Except Malformed (List Char)
  | [] => .ok []
  | .scalar c :: rest => (collect (position + c.utf8Size) rest).map (c :: ·)
  | .malformed bytes fault :: _ => .error ⟨position, bytes, fault⟩

def decodeStrict (bs : Bytes) : Except Malformed String :=
  (collect 0 (chunks bs)).map String.ofList

end RustOutline.Utf8
