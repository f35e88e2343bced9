import RustOutline.Proofs.JsonRoundTrip

/-! Whatever is in an outline, it is a plain value: nothing is published that has no JSON form, and as
long as there is room for it, its document is read back whole. -/
namespace RustOutline

namespace Value

@[simp] theorem plain_bool (b : Bool) : (Value.bool b).Plain := .bool b
@[simp] theorem plain_int (n : Int) : (Value.int n).Plain := .int n
@[simp] theorem plain_str (s : String) : (Value.str s).Plain := .str s

theorem plain_map {α : Type} {toValue : α → Value} (h : ∀ a, (toValue a).Plain) (as : List α) :
    (Value.arr (as.map toValue)).Plain :=
  .arr (List.forall_mem_map.mpr fun a _ => h a)

theorem plain_ofOption {α : Type} {toValue : α → Value} (h : ∀ a, (toValue a).Plain)
    (a : Option α) : (Value.ofOption toValue a).Plain := by
  cases a with
  | none => exact .null
  | some a => exact h a

@[simp] theorem plain_text? (s : Option String) : (Value.text? s).Plain := plain_ofOption .str s

theorem plain_record (fields : List (String × Value)) (distinct : (fields.map Prod.fst).Nodup)
    (plain : ∀ f ∈ fields, f.2.Plain) : (Value.obj (Fields.ofTexts fields)).Plain :=
  .obj distinct plain

end Value
open Value

@[simp] theorem Span.plain_toValue (s : Span) : s.toValue.Plain :=
  plain_record [("start", .int s.start), ("end", .int s.stop), ("startLine", .int s.startLine),
    ("startColumn", .int s.startColumn), ("endLine", .int s.endLine),
    ("endColumn", .int s.endColumn)] (by simp) (by simp)

theorem TraitMethod.plain_toValue (m : TraitMethod) : m.toValue.Plain :=
  plain_record [("name", .str m.name), ("signature", .str m.signature),
    ("docComment", .text? m.doc), ("span", m.span.toValue)] (by simp) (by simp)

theorem ModuleReference.plain_toValue (r : ModuleReference) : r.toValue.Plain :=
  plain_record [("name", .str r.name), ("visibility", .str r.visibility.render),
    ("expectedPaths", .arr (r.expectedPaths.map .str)), ("span", r.span.toValue)] (by simp)
    (by simp [plain_map plain_str])

theorem Diagnostic.plain_toValue (d : Diagnostic) : d.toValue.Plain :=
  plain_record [("message", .str d.message), ("severity", .str d.severity),
    ("span", .ofOption Span.toValue d.span)] (by simp) (by simp [plain_ofOption Span.plain_toValue])

theorem plain_references (rs : List ModuleReference) :
    (Value.arr (rs.map ModuleReference.toValue)).Plain :=
  plain_map ModuleReference.plain_toValue rs

mutual
theorem Item.plain_toValue : ∀ item : Item, item.toValue.Plain
  | ⟨name, rawText, doc, visibility, span, details⟩ => by
    rw [toValue]
    exact plain_record [("name", .str name), ("rawText", .str rawText), ("docComment", .text? doc),
      ("visibility", .str visibility.render), ("span", span.toValue),
      ("details", detailsValue details)] (by simp) (by simp [plain_detailsValue details])

theorem Item.plain_detailsValue : ∀ d : Details Item, (detailsValue d).Plain
  | .function signature => by
    rw [detailsValue]
    exact plain_record [("type", .str "function"), ("signature", .str signature)] (by simp) (by simp)
  | .dataType kind methods => by
    rw [detailsValue]
    exact plain_record [("type", .str "algebraicDataType"), ("kind", .str kind.label),
      ("methods", .arr (listValue methods))] (by simp) (by simp [Value.Plain.arr (plain_listValue methods)])
  | .trait methods => by
    rw [detailsValue]
    exact plain_record [("type", .str "trait"), ("methods", .arr (methods.map TraitMethod.toValue))]
      (by simp) (by simp [plain_map TraitMethod.plain_toValue])
  | .inlineModule items references => by
    rw [detailsValue]
    exact plain_record [("type", .str "module"), ("items", .arr (listValue items)),
      ("moduleReferences", .arr (references.map ModuleReference.toValue))] (by simp)
      (by simp [Value.Plain.arr (plain_listValue items), plain_references])
  | .other kind => by
    rw [detailsValue]
    exact plain_record [("type", .str "other"), ("itemKind", .str kind.label)] (by simp) (by simp)

theorem Item.plain_listValue : ∀ items : List Item, ∀ v ∈ listValue items, v.Plain
  | [] => by simp [listValue]
  | item :: rest => by
    rw [listValue]
    exact List.forall_mem_cons.mpr ⟨plain_toValue item, plain_listValue rest⟩
end

theorem Scope.plain_toValue (s : Scope) : s.toValue.Plain :=
  plain_record [("items", .arr (Item.listValue s.items)),
    ("moduleReferences", .arr (s.references.map ModuleReference.toValue))] (by simp)
    (by simp [Value.Plain.arr (Item.plain_listValue s.items), plain_references])

theorem Response.plain_toValue (r : Response) : r.toValue.Plain :=
  plain_record [("success", .bool r.success), ("parseTimeMs", .int r.parseTimeMs),
    ("diagnostics", .arr (r.diagnostics.map Diagnostic.toValue)), ("fileInfo", r.file.toValue)]
    (by simp) (by simp [plain_map Diagnostic.plain_toValue, Scope.plain_toValue])

theorem ModuleSummary.plain_toValue (m : ModuleSummary) : m.toValue.Plain :=
  plain_record [("path", .str m.path), ("name", .str m.name),
    ("items", .arr (Item.listValue m.items)),
    ("moduleReferences", .arr (m.references.map ModuleReference.toValue)),
    ("span", .ofOption Span.toValue m.span)] (by simp)
    (by simp [Value.Plain.arr (Item.plain_listValue m.items), plain_references,
      plain_ofOption Span.plain_toValue])

section Documents
variable {nesting : Json.Nesting}

theorem exists_document {v : Value} (plain : v.Plain) (fits : v.Fits nesting)
    (indent : Json.Indent) : ∃ text, (Encoder.standard nesting).document indent v = .ok text ∧
      Json.read Json.standard text = some v := by
  obtain ⟨text, hprint, -, hread, -⟩ := Json.print_of_plain plain fits indent
  refine ⟨text, ?_, hread⟩
  rw [Encoder.document, Encoder.standard, hprint]
  rfl

/-- A response has a document if there is room for it, and the document says all of it. -/
theorem Response.exists_document (r : Response) (fits : r.toValue.Fits nesting)
    (indent : Json.Indent) : ∃ text, r.document (Encoder.standard nesting) indent = .ok text ∧
      Json.read Json.standard text = some r.toValue :=
  RustOutline.exists_document r.plain_toValue fits indent

theorem ModuleSummary.exists_document (ms : List ModuleSummary)
    (fits : (Value.arr (ms.map toValue)).Fits nesting) (indent : Json.Indent) :
    ∃ text, ModuleSummary.document (Encoder.standard nesting) indent ms = .ok text ∧
      Json.read Json.standard text = some (.arr (ms.map toValue)) :=
  RustOutline.exists_document (plain_map plain_toValue ms) fits indent

end Documents
end RustOutline
