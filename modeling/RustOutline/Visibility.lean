import RustOutline.Text.Blank
import RustOutline.Text.Search
import RustOutline.Tree

/-! Visibility of a declaration, read from the text of its modifier. -/
namespace RustOutline

inductive Visibility where
  /-- No modifier: visible in its own module only. -/
  | inherited
  | crate
  | super
  | within (path : String)
  | everywhere
deriving DecidableEq, Repr, Inhabited

namespace Visibility

/-- Blanks do not count. The narrow forms are looked for first; `pub(self)` counts as `pub`. -/
def ofText (modifier : String) : Visibility :=
  let cs := Text.squeeze modifier.toList
  if Text.occursIn "pub(crate)".toList cs then .crate
  else if Text.occursIn "pub(super)".toList cs then .super
  else match Text.afterFirst? "pub(in".toList cs with
    | some rest => .within (String.ofList (rest.takeWhile (· != ')')))
    | none => if Text.occursIn "pub".toList cs then .everywhere else .inherited

def isPrivate (v : Visibility) : Bool := v == .inherited

def tag : Visibility → String
  | .inherited => "private"
  | .crate => "pub(crate)"
  | .super => "pub(super)"
  | .within _ => "pub(in)"
  | .everywhere => "pub"

def path? : Visibility → Option String
  | .within path => some path
  | _ => none

def render : Visibility → String
  | .within path => "pub(in " ++ path ++ ")"
  | v => v.tag

/-- The inclusion policy: private declarations are kept only on request. -/
def included (includePrivate : Bool) (v : Visibility) : Bool := includePrivate || !v.isPrivate

def ofNode (source : Utf8.Bytes) (n : Node) : Visibility :=
  match n.children.find? fun c => c.kind == "visibility_modifier" with
  | some modifier => ofText (modifier.text source)
  | none => .inherited

end Visibility
end RustOutline
