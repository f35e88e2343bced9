import RustOutline.Text.Lines
import RustOutline.Text.Search
import RustOutline.Tree

/-! Documentation of a declaration: the run of `///` comments and `#[doc = "…"]` attributes
directly above it. Other attributes do not end the run; anything else does. -/
namespace RustOutline.DocComment
open Text

/-- The content of a `///` line; four slashes are a plain comment. -/
def outerLine? (cs : List Char) : Option (List Char) :=
  let t := trim cs
  if "///".toList.isPrefixOf t && !"////".toList.isPrefixOf t then some (trim (t.drop 3)) else none

/-- The trimmed content of a string literal, raw or not; any other text is only trimmed. -/
def unquote (cs : List Char) : List Char :=
  let t := trim cs
  let u := match t with
    | 'r' :: u => u
    | u => u
  let closing := '"' :: u.takeWhile (· == '#')
  match u.dropWhile (· == '#') with
  | '"' :: rest =>
    if closing.isSuffixOf rest then trim (rest.take (rest.length - closing.length)) else t
  | _ => t

def attributeValue? (source : Utf8.Bytes) (n : Node) : Option (List Char) := do
  let attr ← n.children.find? fun c => c.kind == "attribute"
  let path ← attr.namedChildren.head?
  guard (path.kind == "identifier" && path.bytes source == Utf8.encode "doc")
  let value ← attr.child? "value"
  guard (value.kind == "string_literal" || value.kind == "raw_string_literal")
  return unquote (value.text source).toList

/-- What a sibling above a declaration means for its documentation. -/
inductive Role where
  | doc (content : List Char)
  | silent
  | boundary
deriving DecidableEq, Repr

def role (source : Utf8.Bytes) (n : Node) : Role :=
  if n.kind == "line_comment" then
    match outerLine? (n.text source).toList with
    | some content => .doc content
    | none => .boundary
  else if n.kind == "attribute_item" then
    match attributeValue? source n with
    | some content => .doc content
    | none => .silent
  else .boundary

/-- Contents of the run above, nearest first. -/
def runAbove (source : Utf8.Bytes) : List Node → List (List Char)
  | [] => []
  | n :: rest => match role source n with
    | .doc content => content :: runAbove source rest
    | .silent => runAbove source rest
    | .boundary => []

/-- Contents of the `///` lines above, nearest first; blank lines do not end the run. -/
def linesAbove : List (List Char) → List (List Char)
  | [] => []
  | l :: rest =>
    if (trim l).isEmpty then linesAbove rest
    else match outerLine? l with
      | some content => content :: linesAbove rest
      | none => []

def assemble (contents : List (List Char)) : Option String :=
  if contents.isEmpty then none else some (joinLines (contents.reverse.map String.ofList))

def ofLines (source : Utf8.Bytes) (offset : Nat) : Option String :=
  assemble (linesAbove (completeLines (Utf8.decodeChars (source.take offset))).reverse)

/-- Documentation by siblings. Inside an error region siblings are not reliable, so the source
lines are read there. -/
def ofSite (source : Utf8.Bytes) (s : Site) : Option String :=
  if s.underError then ofLines source s.node.start
  else assemble (runAbove source s.before)

end RustOutline.DocComment
