import RustOutline.Utf8

/-! Syntax trees over a byte string, as a parser with error recovery gives them. -/
namespace RustOutline

/-- A place in a text, row and column from zero; columns count bytes. -/
structure Point where
  row : Nat
  column : Nat
deriving DecidableEq, Repr, Inhabited

/-- A byte range with lines and columns counted from one, as shown to readers. -/
structure Span where
  start : Nat
  stop : Nat
  startLine : Nat
  startColumn : Nat
  endLine : Nat
  endColumn : Nat
deriving DecidableEq, Repr, Inhabited

/-- A node of the tree. `field` is its role in the parent. A `missing` node was inserted by the
parser; `hasError` says that error recovery took place at or below the node. -/
structure Node where
  kind : String
  field : Option String
  named : Bool
  missing : Bool
  hasError : Bool
  start : Nat
  stop : Nat
  startPoint : Point
  endPoint : Point
  children : List Node
deriving Inhabited

/-- The bytes from `start` up to `stop`; none if the range is empty or runs backwards. -/
def slice (source : Utf8.Bytes) (start stop : Nat) : Utf8.Bytes :=
  (source.drop start).take (stop - start)

namespace Node

def isError (n : Node) : Bool := n.kind == "ERROR"

def span (n : Node) : Span where
  start := n.start
  stop := n.stop
  startLine := n.startPoint.row + 1
  startColumn := n.startPoint.column + 1
  endLine := n.endPoint.row + 1
  endColumn := n.endPoint.column + 1

def bytes (source : Utf8.Bytes) (n : Node) : Utf8.Bytes := slice source n.start n.stop

def text (source : Utf8.Bytes) (n : Node) : String := Utf8.decode (n.bytes source)

def namedChildren (n : Node) : List Node := n.children.filter Node.named

def child? (role : String) (n : Node) : Option Node :=
  n.children.find? fun c => c.field == some role

mutual
def preorder : Node → List Node
  | ⟨k, f, n, m, e, a, b, p, q, children⟩ =>
    ⟨k, f, n, m, e, a, b, p, q, children⟩ :: preorderAll children

def preorderAll : List Node → List Node
  | [] => []
  | c :: cs => preorder c ++ preorderAll cs
end

mutual
def weight : Node → Nat
  | ⟨_, _, _, _, _, _, _, _, _, children⟩ => 1 + weights children

def weights : List Node → Nat
  | [] => 0
  | c :: cs => weight c + weights cs
end

theorem weight_eq (n : Node) : n.weight = 1 + weights n.children := by
  cases n
  rw [weight]

@[simp] theorem weights_cons (c : Node) (cs : List Node) :
    weights (c :: cs) = c.weight + weights cs := by
  rw [weights]

@[simp] theorem weights_append (cs ds : List Node) : weights (cs ++ ds) = weights cs + weights ds := by
  induction cs with
  | nil => simp [weights]
  | cons c cs ih => simp [ih, Nat.add_assoc]

theorem weights_filter_le (p : Node → Bool) (cs : List Node) : weights (cs.filter p) ≤ weights cs := by
  induction cs with
  | nil => exact Nat.le_refl _
  | cons c cs ih =>
    rw [List.filter_cons]
    split <;> simp <;> omega

theorem weight_le_of_mem {c : Node} {cs : List Node} (h : c ∈ cs) : c.weight ≤ weights cs := by
  induction h with
  | head cs => simp
  | tail d _ ih =>
    rw [weights_cons]
    omega

theorem weights_namedChildren_lt (n : Node) : weights n.namedChildren < n.weight := by
  have := weights_filter_le Node.named n.children
  rw [weight_eq, namedChildren]
  omega

theorem mem_children_of_child? {role : String} {n c : Node} (h : n.child? role = some c) :
    c ∈ n.children := List.mem_of_find?_eq_some h

theorem weight_lt_of_child? {role : String} {n c : Node} (h : n.child? role = some c) :
    c.weight < n.weight := by
  have := weight_le_of_mem (mem_children_of_child? h)
  rw [weight_eq n]
  omega

end Node

/-- A node where it stands: whether its parent is an error region, and the siblings before it,
nearest first. -/
structure Site where
  node : Node
  underError : Bool
  before : List Node
deriving Inhabited

namespace Site

def ofRoot (root : Node) : Site := ⟨root, false, []⟩

def ofSiblings (underError : Bool) (before : List Node) : List Node → List Site
  | [] => []
  | c :: cs => ⟨c, underError, before⟩ :: ofSiblings underError (c :: before) cs

def children (n : Node) : List Site := ofSiblings n.isError [] n.children

def namedChildren (n : Node) : List Site := (children n).filter fun s => s.node.named

theorem map_node_ofSiblings (underError : Bool) (before cs : List Node) :
    (ofSiblings underError before cs).map node = cs := by
  induction cs generalizing before with
  | nil => rfl
  | cons c cs ih => rw [ofSiblings, List.map_cons, ih]

theorem map_node_namedChildren (n : Node) : (namedChildren n).map node = n.namedChildren := by
  have hnamed : (fun s : Site => s.node.named) = Node.named ∘ node := rfl
  rw [namedChildren, children, Node.namedChildren, hnamed, ← List.filter_map, map_node_ofSiblings]

def descend? (s : Site) : List Nat → Option Site
  | [] => some s
  | i :: path => match (children s.node)[i]? with
    | some c => c.descend? path
    | none => none

end Site
end RustOutline
