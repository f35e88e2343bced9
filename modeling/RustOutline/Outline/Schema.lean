import RustOutline.Outline.ModuleSummary
import RustOutline.Outline.Response
import RustOutline.Value

/-! The published shape of results. Every field is always present; what is absent is null. -/
namespace RustOutline

def Span.toValue (s : Span) : Value := .obj [
  ("start", .int s.start), ("end", .int s.stop),
  ("startLine", .int s.startLine), ("startColumn", .int s.startColumn),
  ("endLine", .int s.endLine), ("endColumn", .int s.endColumn)]

def TraitMethod.toValue (m : TraitMethod) : Value := .obj [
  ("name", .str m.name), ("signature", .str m.signature), ("docComment", .text? m.doc),
  ("span", m.span.toValue)]

def ModuleReference.toValue (r : ModuleReference) : Value := .obj [
  ("name", .str r.name), ("visibility", .str r.visibility.render),
  ("expectedPaths", .arr (r.expectedPaths.map .str)), ("span", r.span.toValue)]

mutual
def Item.toValue : Item → Value
  | ⟨name, rawText, doc, visibility, span, details⟩ => .obj [
    ("name", .str name), ("rawText", .str rawText), ("docComment", .text? doc),
    ("visibility", .str visibility.render), ("span", span.toValue),
    ("details", Item.detailsValue details)]

def Item.detailsValue : Details Item → Value
  | .function signature => .obj [("type", .str "function"), ("signature", .str signature)]
  | .dataType kind methods => .obj [
    ("type", .str "algebraicDataType"), ("kind", .str kind.label),
    ("methods", .arr (Item.listValue methods))]
  | .trait methods => .obj [
    ("type", .str "trait"), ("methods", .arr (methods.map TraitMethod.toValue))]
  | .inlineModule items references => .obj [
    ("type", .str "module"), ("items", .arr (Item.listValue items)),
    ("moduleReferences", .arr (references.map ModuleReference.toValue))]
  | .other kind => .obj [("type", .str "other"), ("itemKind", .str kind.label)]

def Item.listValue : List Item → List Value
  | [] => []
  | item :: rest => Item.toValue item :: Item.listValue rest
end

def Scope.toValue (s : Scope) : Value := .obj [
  ("items", .arr (Item.listValue s.items)),
  ("moduleReferences", .arr (s.references.map ModuleReference.toValue))]

def Diagnostic.toValue (d : Diagnostic) : Value := .obj [
  ("message", .str d.message), ("severity", .str d.severity),
  ("span", .ofOption Span.toValue d.span)]

def Response.toValue (r : Response) : Value := .obj [
  ("success", .bool r.success), ("parseTimeMs", .int r.parseTimeMs),
  ("diagnostics", .arr (r.diagnostics.map Diagnostic.toValue)), ("fileInfo", r.file.toValue)]

def ModuleSummary.toValue (m : ModuleSummary) : Value := .obj [
  ("path", .str m.path), ("name", .str m.name), ("items", .arr (Item.listValue m.items)),
  ("moduleReferences", .arr (m.references.map ModuleReference.toValue)),
  ("span", .ofOption Span.toValue m.span)]

end RustOutline
