import RustOutline.Yaml.Node

/-! Merge keys of YAML: the entries under `<<` become entries of the mapping around them. -/
namespace RustOutline.Yaml

inductive Content where
  | scalar (plain : Bool) (text : String)
  | list (items : List Content)
  | mapping (entries : List (Content × Content))
  /-- A mapping that merges what is no mapping. -/
  | unmergeable
deriving Inhabited

namespace Content

abbrev Entries := List (Content × Content)

def entries? : Content → Option Entries
  | .mapping es => some es
  | _ => none

/-- The entries that a merge key brings: those of a mapping, or of a list of mappings from the last
one to the first. -/
def merged? : Content → Option Entries
  | .mapping es => some es
  | .list items => (items.mapM entries?).map fun ess => ess.reverse.flatten
  | _ => none

end Content

namespace Node

def isMerge : Node → Bool
  | .scalar true "<<" => true
  | _ => false

mutual
def content : Node → Content
  | .scalar plain text => .scalar plain text
  | .list items => .list (contents items)
  | .mapping entries => match spread entries with
    | some (merged, own) => .mapping (merged ++ own)
    | none => .unmergeable

def contents : List Node → List Content
  | [] => []
  | n :: ns => n.content :: contents ns

def spread : List (Node × Node) → Option (Content.Entries × Content.Entries)
  | [] => some ([], [])
  | (k, n) :: rest =>
    if k.isMerge then
      match n.content.merged?, spread rest with
      | some es, some (merged, own) => some (es ++ merged, own)
      | _, _ => none
    else (spread rest).map fun (merged, own) => (merged, (k.content, n.content) :: own)
end

end Node
end RustOutline.Yaml
