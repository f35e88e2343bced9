import RustOutline.Utf8.Stream
import RustOutline.Value
import RustOutline.Yaml.Merge
import RustOutline.Yaml.Scalar

namespace RustOutline.Yaml

structure Misfit where
  depth : Nat
  fault : Fault
deriving DecidableEq, Repr, Inhabited

/-- A value made from a tree. Of several faults the one nearest to the root counts, and of those the
first. -/
abbrev Made (α : Type) := Except Misfit α

namespace Made

def both {α β : Type} (a : Made α) (b : Made β) : Made (α × β) :=
  match a, b with
  | .ok x, .ok y => .ok (x, y)
  | .ok _, .error f => .error f
  | .error e, .ok _ => .error e
  | .error e, .error f => .error (if f.depth < e.depth then f else e)

def atDepth (depth : Nat) {α : Type} (a : Except Fault α) : Made α :=
  match a with
  | .ok x => .ok x
  | .error fault => .error ⟨depth, fault⟩

end Made

def key? : Value → Option Key
  | .str s => some (.text s)
  | .null => some .null
  | .bool b => some (.bool b)
  | .int n => some (.int n)
  | .real x => some (.real x.toBits)
  | _ => none

namespace Content

def key (depth : Nat) : Content → Made Key
  | .scalar true "=" => .ok "="
  | .scalar plain text =>
    Made.atDepth depth (if plain then do
      match key? (← resolve text.toList) with
      | some k => return k
      | none => throw .badKey
    else .ok text)
  | _ => .error ⟨depth, .badKey⟩

mutual
/-- The value of a tree. What stands in a collection lies one level deeper. -/
def value (depth : Nat) : Content → Made Value
  | .scalar plain text =>
    Made.atDepth depth (if plain then resolve text.toList else .ok (.str text))
  | .list items => (values (depth + 1) items).map .arr
  | .mapping entries => (fields (depth + 1) entries).map fun fs =>
    .obj (fs.foldl (fun acc (k, v) => Fields.put k v acc) [])
  | .unmergeable => .error ⟨depth + 1, .badMerge⟩

def values (depth : Nat) : List Content → Made (List Value)
  | [] => .ok []
  | c :: cs => ((value depth c).both (values depth cs)).map fun (v, vs) => v :: vs

def fields (depth : Nat) : List (Content × Content) → Made Fields
  | [] => .ok []
  | (k, c) :: rest =>
    (((k.key depth).both (value depth c)).both (fields depth rest)).map fun (f, fs) => f :: fs
end

end Content

def isAllowed (c : Char) : Bool :=
  let n := c.toNat
  n == 9 || n == 10 || n == 13 || (0x20 ≤ n && n ≤ 0x7E) || n == 0x85 ||
    (0xA0 ≤ n && n ≤ 0xD7FF) || (0xE000 ≤ n && n ≤ 0xFFFD) || 0x10000 ≤ n

structure Readable where
  text : List Char
  cut : Option Fault
deriving Inhabited

def Readable.ofPieces (ending : Option Fault) : List (List Char) → Readable
  | [] => ⟨[], ending⟩
  | piece :: rest =>
    if piece.all isAllowed then
      let more := ofPieces ending rest
      ⟨piece ++ more.text, more.cut⟩
    else ⟨[], some .control⟩

/-- The first two pieces of a text are looked at as one. -/
def Readable.ofBytes (bytes : Utf8.Bytes) : Readable :=
  match Utf8.pieces bytes with
  | ([_], some m) => ⟨[], some (.malformed m)⟩
  | (a :: b :: rest, m) => ofPieces (m.map .malformed) ((a ++ b) :: rest)
  | (ps, m) => ofPieces (m.map .malformed) ps

/-- The value of a document; an empty one is null. A byte order mark may come first. -/
def read (bytes : Utf8.Bytes) : Except Fault Value := do
  let ⟨cs, cut⟩ := Readable.ofBytes bytes
  let cs := match cs with
    | '\uFEFF' :: rest => rest
    | cs => cs
  let root ← Node.document (tokens cs cut)
  match root.content.value 0 with
  | .ok v => return v
  | .error m => throw m.fault

end RustOutline.Yaml
