import RustOutline.Text.Lines
import RustOutline.Tree

namespace RustOutline
open Text

structure Diagnostic where
  message : String
  severity : String
  span : Option Span
deriving DecidableEq, Repr, Inhabited

def snippetLimit : Nat := 40

/-- The first line of the trimmed text, shortened with dots if it is too long. -/
def Node.snippet (source : Utf8.Bytes) (n : Node) : List Char :=
  let line := firstLine (trim (n.text source).toList)
  if snippetLimit < line.length then line.take (snippetLimit - 3) ++ ['.', '.', '.'] else line

def Diagnostic.atNode (n : Node) (message : String) : Diagnostic where
  message := message
  severity := "error"
  span := some n.span

def Node.missingToken (n : Node) : Diagnostic := .atNode n ("Missing `" ++ n.kind ++ "`")

def Node.unreadable (source : Utf8.Bytes) (n : Node) : Diagnostic :=
  let snippet := n.snippet source
  .atNode n (if snippet.isEmpty then "Syntax error"
    else "Syntax error near `" ++ String.ofList snippet ++ "`")

/-- The diagnostics of the nodes on a stack, in source order. Below a reported node nothing more is
reported, and subtrees without recovery are not entered. -/
def diagnoseStack (source : Utf8.Bytes) : List Node → List Diagnostic
  | [] => []
  | n :: rest =>
    if n.missing then n.missingToken :: diagnoseStack source rest
    else if n.isError then n.unreadable source :: diagnoseStack source rest
    else if n.hasError then diagnoseStack source (n.children ++ rest)
    else diagnoseStack source rest
termination_by stack => Node.weights stack
decreasing_by
  all_goals
    have := n.weight_eq
    simp only [Node.weights_append, Node.weights_cons]
    omega

def Node.diagnose (source : Utf8.Bytes) (n : Node) : List Diagnostic := diagnoseStack source [n]

end RustOutline
