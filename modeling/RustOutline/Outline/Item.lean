import RustOutline.Visibility

namespace RustOutline

inductive DataKind where
  | struct
  | enum
  | union
deriving DecidableEq, Repr, Inhabited

def DataKind.label : DataKind → String
  | .struct => "struct"
  | .enum => "enum"
  | .union => "union"

inductive OtherKind where
  | useDecl
  | constant
  | static
  | typeAlias
  | impl
  | macroDef
  | externCrate
deriving DecidableEq, Repr, Inhabited

def OtherKind.label : OtherKind → String
  | .useDecl => "use"
  | .constant => "const"
  | .static => "static"
  | .typeAlias => "type_alias"
  | .impl => "impl"
  | .macroDef => "macro"
  | .externCrate => "extern_crate"

structure TraitMethod where
  name : String
  signature : String
  doc : Option String
  span : Span
deriving DecidableEq, Repr, Inhabited

/-- A module whose content is expected in another file. -/
structure ModuleReference where
  name : String
  visibility : Visibility
  expectedPaths : List String
  span : Span
deriving DecidableEq, Repr, Inhabited

/-- What is particular to one sort of declaration, over the type of nested declarations. -/
inductive Details (Nested : Type) where
  | function (signature : String)
  | dataType (kind : DataKind) (methods : List Nested)
  | trait (methods : List TraitMethod)
  | inlineModule (items : List Nested) (references : List ModuleReference)
  | other (kind : OtherKind)
deriving Inhabited

structure Item where
  name : String
  rawText : String
  doc : Option String
  visibility : Visibility
  span : Span
  details : Details Item
deriving Inhabited

structure Scope where
  items : List Item
  references : List ModuleReference
deriving Inhabited

namespace Scope

def empty : Scope := ⟨[], []⟩

def append (s t : Scope) : Scope := ⟨s.items ++ t.items, s.references ++ t.references⟩

instance : Append Scope := ⟨append⟩

def ofItem (item : Item) : Scope := ⟨[item], []⟩

def ofReference (reference : ModuleReference) : Scope := ⟨[], [reference]⟩

end Scope

def Item.inner? (item : Item) : Option Scope :=
  match item.details with
  | .inlineModule items references => some ⟨items, references⟩
  | _ => none

def Item.isModule (item : Item) : Bool := item.inner?.isSome

end RustOutline
