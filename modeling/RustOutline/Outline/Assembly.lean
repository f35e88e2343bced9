import RustOutline.Outline.ImplIndex
import RustOutline.Outline.ModulePath

/-! Assembly of a scope from a run of sibling nodes. Declarations kept inside an error region count
as siblings in the enclosing scope. -/
namespace RustOutline

structure FileContext where
  source : Utf8.Bytes
  includePrivate : Bool
  impls : ImplIndex

namespace FileContext

/-- A declaration other than a module: none, or one item. A data type gets its impl methods. -/
def declare (ctx : FileContext) (s : Site) : Scope :=
  if s.node.kind == "impl_item" && ctx.impls.isAttached s.node then .empty
  else if !(Visibility.ofNode ctx.source s.node).included ctx.includePrivate then .empty
  else match s.declaration? ctx.source with
    | none => .empty
    | some item => match item.details with
      | .dataType kind _ =>
        .ofItem { item with details := .dataType kind (ctx.impls.methodsFor item.name) }
      | _ => .ofItem item

/-- A module declaration, given the scope of its body: without a body it refers to a file. -/
def declareModule (ctx : FileContext) (enclosing : List String) (s : Site) (name : String)
    (body : Option Scope) : Scope :=
  let visibility := Visibility.ofNode ctx.source s.node
  if !visibility.included ctx.includePrivate then .empty
  else match body with
    | none => .ofReference
        { name, visibility, expectedPaths := expectedModulePaths enclosing name,
          span := s.node.span }
    | some inner => .ofItem (s.item ctx.source name (.inlineModule inner.items inner.references))

/-- The scope of the sites on a stack. An error region gives way to its named children. -/
def assembleStack (ctx : FileContext) (enclosing : List String) : List Site → Scope
  | [] => .empty
  | s :: rest =>
    if s.node.isError then ctx.assembleStack enclosing (Site.namedChildren s.node ++ rest)
    else
      let scope := if s.node.kind == "mod_item" then
          match s.node.fieldText? ctx.source "name" with
          | none => .empty
          | some name => ctx.declareModule enclosing s name
              (match _h : s.node.child? "body" with
                | none => none
                | some body =>
                  some (ctx.assembleStack (enclosing ++ [name]) (Site.namedChildren body)))
        else ctx.declare s
      scope ++ ctx.assembleStack enclosing rest
termination_by sites => Node.weights (sites.map Site.node)
decreasing_by
  · simpa [Site.map_node_namedChildren] using s.node.weights_namedChildren_lt
  · have := body.weights_namedChildren_lt
    have := Node.weight_lt_of_child? _h
    rw [Site.map_node_namedChildren, List.map_cons, Node.weights_cons]
    omega
  · have := s.node.weight_eq
    rw [List.map_cons, Node.weights_cons]
    omega

def assembleInside (ctx : FileContext) (enclosing : List String) (n : Node) : Scope :=
  ctx.assembleStack enclosing (Site.namedChildren n)

end FileContext

def fileScope (source : Utf8.Bytes) (includePrivate : Bool) (root : Node) : Scope :=
  let ctx : FileContext :=
    { source, includePrivate, impls := ImplIndex.build source includePrivate root }
  ctx.assembleInside [] root

end RustOutline
