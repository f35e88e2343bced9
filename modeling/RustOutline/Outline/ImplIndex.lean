import RustOutline.Outline.Declaration

/-! Impl blocks of a whole file and the data types they extend. A block belongs to every data type
whose name occurs in its type text, in whatever module the two stand. -/
namespace RustOutline
open Text

/-- An impl block by its byte range, with the methods that the inclusion policy keeps. -/
structure ImplBlock where
  typeText : String
  start : Nat
  stop : Nat
  methods : List Item
deriving Inhabited

structure ImplIndex where
  blocks : List ImplBlock := []
  dataNames : List String := []
deriving Inhabited

def implMethod? (source : Utf8.Bytes) (includePrivate : Bool) (s : Site) : Option Item :=
  if s.node.kind == "function_item" &&
      (Visibility.ofNode source s.node).included includePrivate then s.declaration? source
  else none

def Node.implMethods (source : Utf8.Bytes) (includePrivate : Bool) (n : Node) : List Item :=
  match n.child? "body" with
  | none => []
  | some body => (Site.namedChildren body).filterMap (implMethod? source includePrivate)

def Node.implBlock? (source : Utf8.Bytes) (includePrivate : Bool) (n : Node) : Option ImplBlock :=
  if n.kind == "impl_item" then
    (n.fieldText? source "type").map fun typeText =>
      { typeText, start := n.start, stop := n.stop, methods := n.implMethods source includePrivate }
  else none

def isDataKind (kind : String) : Bool :=
  match Form.ofKind? kind with
  | some (.dataType _) => true
  | _ => false

def Node.dataName? (source : Utf8.Bytes) (n : Node) : Option String :=
  if isDataKind n.kind then n.fieldText? source "name" else none

namespace ImplIndex

def add (source : Utf8.Bytes) (includePrivate : Bool) (index : ImplIndex) (n : Node) : ImplIndex where
  blocks := index.blocks ++ (n.implBlock? source includePrivate).toList
  dataNames := index.dataNames ++ (n.dataName? source).toList

/-- Collects from the nodes on a stack and from all that they reach through named children. -/
def collect (source : Utf8.Bytes) (includePrivate : Bool) (index : ImplIndex) :
    List Node → ImplIndex
  | [] => index
  | n :: rest =>
    collect source includePrivate (index.add source includePrivate n) (n.namedChildren ++ rest)
termination_by stack => Node.weights stack
decreasing_by simpa using n.weights_namedChildren_lt

def build (source : Utf8.Bytes) (includePrivate : Bool) (root : Node) : ImplIndex :=
  collect source includePrivate {} [root]

def mentions (block : ImplBlock) (name : String) : Bool :=
  occursIn name.toList block.typeText.toList

/-- The methods of all blocks that mention a data type, block by block. -/
def methodsFor (index : ImplIndex) (name : String) : List Item :=
  (index.blocks.filter (mentions · name)).flatMap ImplBlock.methods

/-- The methods of this block were handed to some data type of the file. -/
def isAttached (index : ImplIndex) (n : Node) : Bool :=
  index.blocks.any fun block =>
    block.start == n.start && block.stop == n.stop && index.dataNames.any (mentions block)

end ImplIndex
end RustOutline
