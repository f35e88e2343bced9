import RustOutline.DocComment
import RustOutline.Outline.Item

/-! One declaration node as an item. A declaration without a usable name gives none. -/
namespace RustOutline
open Text

/-- The text of the child in a role, if the parser found one and it is not blank. -/
def Node.fieldText? (source : Utf8.Bytes) (role : String) (n : Node) : Option String :=
  match n.child? role with
  | none => none
  | some c =>
    if c.missing then none
    else
      let text := strip (c.text source)
      if text.isEmpty then none else some text

/-- The declaration up to its body, or all of it if it has none. -/
def Node.signature (source : Utf8.Bytes) (n : Node) : String :=
  match n.child? "body" with
  | none => n.text source
  | some body => stripEnd (Utf8.decode (slice source n.start body.start))

def Node.implName? (source : Utf8.Bytes) (n : Node) : Option String :=
  match n.fieldText? source "type" with
  | none => none
  | some type => match n.fieldText? source "trait" with
    | none => some type
    | some trait => some (trait ++ " for " ++ type)

/-- Sorts of declaration nodes. Modules are not among them: what a module becomes depends on its
scope. -/
inductive Form where
  | function
  | dataType (kind : DataKind)
  | trait
  | other (kind : OtherKind)
deriving DecidableEq, Repr

namespace Form

def ofKind? (kind : String) : Option Form :=
  match kind with
  | "function_item" => some .function
  | "function_signature_item" => some .function
  | "struct_item" => some (.dataType .struct)
  | "enum_item" => some (.dataType .enum)
  | "union_item" => some (.dataType .union)
  | "trait_item" => some .trait
  | "impl_item" => some (.other .impl)
  | "use_declaration" => some (.other .useDecl)
  | "const_item" => some (.other .constant)
  | "static_item" => some (.other .static)
  | "type_item" => some (.other .typeAlias)
  | "macro_definition" => some (.other .macroDef)
  | "extern_crate_declaration" => some (.other .externCrate)
  | _ => none

def name? (source : Utf8.Bytes) (n : Node) : Form → Option String
  | .other .impl => n.implName? source
  | .other .useDecl => n.fieldText? source "argument"
  | _ => n.fieldText? source "name"

end Form

def isFunctionKind (kind : String) : Bool :=
  kind == "function_item" || kind == "function_signature_item"

def traitMethod? (source : Utf8.Bytes) (s : Site) : Option TraitMethod :=
  if isFunctionKind s.node.kind then
    (s.node.fieldText? source "name").map fun name =>
      { name, signature := s.node.signature source, doc := DocComment.ofSite source s,
        span := s.node.span }
  else none

def Node.traitMethods (source : Utf8.Bytes) (n : Node) : List TraitMethod :=
  match n.child? "body" with
  | none => []
  | some body => (Site.namedChildren body).filterMap (traitMethod? source)

/-- Details as the declaration itself shows them; a data type has no methods of its own. -/
def Form.details (source : Utf8.Bytes) (n : Node) : Form → Details Item
  | .function => .function (n.signature source)
  | .dataType kind => .dataType kind []
  | .trait => .trait (n.traitMethods source)
  | .other kind => .other kind

def Site.item (source : Utf8.Bytes) (s : Site) (name : String) (details : Details Item) : Item where
  name := name
  rawText := s.node.text source
  doc := DocComment.ofSite source s
  visibility := Visibility.ofNode source s.node
  span := s.node.span
  details := details

def Site.declaration? (source : Utf8.Bytes) (s : Site) : Option Item :=
  match Form.ofKind? s.node.kind with
  | none => none
  | some form => (form.name? source s.node).map fun name =>
    s.item source name (form.details source s.node)

end RustOutline
