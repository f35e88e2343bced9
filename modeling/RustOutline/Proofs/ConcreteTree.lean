import RustOutline.Tree

/-! Trees of concrete files, written down by byte ranges; rows and columns follow from the source. -/
namespace RustOutline

/-- The place of a byte offset: newlines before it, and bytes since the last one. -/
def Point.ofOffset (source : Utf8.Bytes) (offset : Nat) : Point :=
  ⟨(source.take offset).count 10, ((source.take offset).reverse.takeWhile (· != 10)).length⟩

namespace Node

/-- A named node of a tree without error recovery. -/
def ofRange (source : Utf8.Bytes) (kind : String) (field : Option String) (start stop : Nat)
    (children : List Node) : Node where
  kind := kind
  field := field
  named := true
  missing := false
  hasError := false
  start := start
  stop := stop
  startPoint := .ofOffset source start
  endPoint := .ofOffset source stop
  children := children

/-- A token that the grammar does not name. -/
def token (source : Utf8.Bytes) (kind : String) (start stop : Nat) : Node :=
  { ofRange source kind none start stop [] with named := false }

end Node
end RustOutline
