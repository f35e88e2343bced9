import RustOutline.Outline.Schema

/-! The published shape of results loses nothing: a decoder gives every response back from it, so
two different responses are never published alike. -/
namespace RustOutline

def DataKind.ofLabel? (label : String) : Option DataKind :=
  [.struct, .enum, .union].find? fun kind => kind.label == label

def OtherKind.ofLabel? (label : String) : Option OtherKind :=
  [.useDecl, .constant, .static, .typeAlias, .impl, .macroDef, .externCrate].find? fun kind =>
    kind.label == label

/-- The start of every visibility with a path. -/
def Visibility.withinStart : String := "pub(in "

/-- The visibility that is rendered so. Only one with a path starts like that, and the path ends
before the last parenthesis, whatever it holds itself. -/
def Visibility.ofRendered? (s : String) : Option Visibility :=
  if Text.startsWith withinStart s then
    some (.within (String.ofList (s.toList.drop withinStart.toList.length).dropLast))
  else [.inherited, .crate, .super, .everywhere].find? fun v => v.render == s

def textOf? : Value → Option (Option String)
  | .null => some none
  | .str s => some (some s)
  | _ => none

def textsOf? : List Value → Option (List String)
  | [] => some []
  | .str s :: vs => (textsOf? vs).map (s :: ·)
  | _ => none

def Span.ofValue? : Value → Option Span
  | .obj [(.text "start", .int (.ofNat start)), (.text "end", .int (.ofNat stop)),
      (.text "startLine", .int (.ofNat startLine)),
      (.text "startColumn", .int (.ofNat startColumn)),
      (.text "endLine", .int (.ofNat endLine)), (.text "endColumn", .int (.ofNat endColumn))] =>
    some { start, stop, startLine, startColumn, endLine, endColumn }
  | _ => none

def TraitMethod.ofValue? : Value → Option TraitMethod
  | .obj [(.text "name", .str name), (.text "signature", .str signature),
      (.text "docComment", doc), (.text "span", span)] => do
    return { name, signature, doc := ← textOf? doc, span := ← Span.ofValue? span }
  | _ => none

def ModuleReference.ofValue? : Value → Option ModuleReference
  | .obj [(.text "name", .str name), (.text "visibility", .str visibility),
      (.text "expectedPaths", .arr paths), (.text "span", span)] => do
    return {
      name
      visibility := ← Visibility.ofRendered? visibility
      expectedPaths := ← textsOf? paths
      span := ← Span.ofValue? span }
  | _ => none

mutual
def Item.ofValue? : Value → Option Item
  | .obj [(.text "name", .str name), (.text "rawText", .str rawText), (.text "docComment", doc),
      (.text "visibility", .str visibility), (.text "span", span), (.text "details", details)] => do
    return {
      name, rawText
      doc := ← textOf? doc
      visibility := ← Visibility.ofRendered? visibility
      span := ← Span.ofValue? span
      details := ← Item.detailsOf? details }
  | _ => none

def Item.detailsOf? : Value → Option (Details Item)
  | .obj [(.text "type", .str "function"), (.text "signature", .str signature)] =>
    some (.function signature)
  | .obj [(.text "type", .str "algebraicDataType"), (.text "kind", .str kind),
      (.text "methods", .arr methods)] => do
    return .dataType (← DataKind.ofLabel? kind) (← Item.listOf? methods)
  | .obj [(.text "type", .str "trait"), (.text "methods", .arr methods)] => do
    return .trait (← methods.mapM TraitMethod.ofValue?)
  | .obj [(.text "type", .str "module"), (.text "items", .arr items),
      (.text "moduleReferences", .arr references)] => do
    return .inlineModule (← Item.listOf? items) (← references.mapM ModuleReference.ofValue?)
  | .obj [(.text "type", .str "other"), (.text "itemKind", .str kind)] => do
    return .other (← OtherKind.ofLabel? kind)
  | _ => none

def Item.listOf? : List Value → Option (List Item)
  | [] => some []
  | v :: vs => do return (← Item.ofValue? v) :: (← Item.listOf? vs)
end

def Scope.ofValue? : Value → Option Scope
  | .obj [(.text "items", .arr items), (.text "moduleReferences", .arr references)] => do
    return ⟨← Item.listOf? items, ← references.mapM ModuleReference.ofValue?⟩
  | _ => none

def Span.ofOptional? : Value → Option (Option Span)
  | .null => some none
  | v => (ofValue? v).map some

def Diagnostic.ofValue? : Value → Option Diagnostic
  | .obj [(.text "message", .str message), (.text "severity", .str severity),
      (.text "span", span)] => do
    return { message, severity, span := ← Span.ofOptional? span }
  | _ => none

/-- The response that is published so. -/
def Response.ofValue? : Value → Option Response
  | .obj [(.text "success", .bool success), (.text "parseTimeMs", .int parseTimeMs),
      (.text "diagnostics", .arr diagnostics), (.text "fileInfo", file)] => do
    return {
      success, parseTimeMs
      diagnostics := ← diagnostics.mapM Diagnostic.ofValue?
      file := ← Scope.ofValue? file }
  | _ => none

theorem DataKind.ofLabel?_label (kind : DataKind) : ofLabel? kind.label = some kind := by
  cases kind <;> decide

theorem OtherKind.ofLabel?_label (kind : OtherKind) : ofLabel? kind.label = some kind := by
  cases kind <;> decide

theorem Visibility.ofRendered?_render (v : Visibility) : ofRendered? v.render = some v := by
  cases v with
  | within path =>
    have hstart : Text.startsWith withinStart (Visibility.within path).render = true := by
      simp [Text.startsWith, render, withinStart]
    have hpath : ((Visibility.within path).render.toList.drop
        withinStart.toList.length).dropLast = path.toList := by
      simp [render, withinStart]
    rw [ofRendered?, if_pos hstart, hpath, String.ofList_toList]
  | _ => decide

theorem textOf?_text? (s : Option String) : textOf? (.text? s) = some s := by
  cases s <;> rfl

theorem textsOf?_map (ss : List String) : textsOf? (ss.map .str) = some ss := by
  induction ss with
  | nil => rfl
  | cons s ss ih => simp [textsOf?, ih]

theorem Span.ofValue?_toValue (s : Span) : ofValue? s.toValue = some s := rfl

theorem mapM_map_eq_some {α : Type} {encode : α → Value} {decode : Value → Option α}
    (h : ∀ a, decode (encode a) = some a) (as : List α) :
    (as.map encode).mapM decode = some as := by
  induction as with
  | nil => rfl
  | cons a as ih => simp [h, ih]

theorem TraitMethod.ofValue?_toValue (m : TraitMethod) : ofValue? m.toValue = some m := by
  simp [toValue, ofValue?, textOf?_text?, Span.ofValue?_toValue]

theorem ModuleReference.ofValue?_toValue (r : ModuleReference) : ofValue? r.toValue = some r := by
  simp [toValue, ofValue?, Visibility.ofRendered?_render, textsOf?_map, Span.ofValue?_toValue]

mutual
theorem Item.ofValue?_toValue : ∀ item : Item, ofValue? item.toValue = some item
  | ⟨name, rawText, doc, visibility, span, details⟩ => by
    simp [toValue, ofValue?, textOf?_text?, Visibility.ofRendered?_render, Span.ofValue?_toValue,
      detailsOf?_detailsValue details]

theorem Item.detailsOf?_detailsValue : ∀ d : Details Item, detailsOf? (detailsValue d) = some d
  | .function signature => by simp [detailsValue, detailsOf?]
  | .dataType kind methods => by
    simp [detailsValue, detailsOf?, DataKind.ofLabel?_label, listOf?_listValue methods]
  | .trait methods => by
    simp [detailsValue, detailsOf?, mapM_map_eq_some TraitMethod.ofValue?_toValue]
  | .inlineModule items references => by
    simp [detailsValue, detailsOf?, listOf?_listValue items,
      mapM_map_eq_some ModuleReference.ofValue?_toValue]
  | .other kind => by simp [detailsValue, detailsOf?, OtherKind.ofLabel?_label]

theorem Item.listOf?_listValue : ∀ items : List Item, listOf? (listValue items) = some items
  | [] => by simp [listValue, listOf?]
  | item :: rest => by simp [listValue, listOf?, ofValue?_toValue item, listOf?_listValue rest]
end

theorem Scope.ofValue?_toValue (s : Scope) : ofValue? s.toValue = some s := by
  simp [toValue, ofValue?, Item.listOf?_listValue,
    mapM_map_eq_some ModuleReference.ofValue?_toValue]

theorem Diagnostic.ofValue?_toValue (d : Diagnostic) : ofValue? d.toValue = some d := by
  obtain ⟨message, severity, span⟩ := d
  have hspan : Span.ofOptional? (.ofOption Span.toValue span) = some span := by
    cases span with
    | none => rfl
    | some span => rfl
  simp [toValue, ofValue?, hspan]

theorem Response.ofValue?_toValue (r : Response) : ofValue? r.toValue = some r := by
  simp [toValue, ofValue?, mapM_map_eq_some Diagnostic.ofValue?_toValue, Scope.ofValue?_toValue]

/-- Every response comes back from what is published of it, and so no two are published alike. A
response here is narrower than its fields have to be: the kind of another item is an `OtherKind`,
where any text could stand, and a `Span` counts in natural numbers, where any integer could. -/
theorem published_response_decodes :
    (∀ r : Response, Response.ofValue? r.toValue = some r) ∧
      Function.Injective Response.toValue := by
  refine ⟨Response.ofValue?_toValue, fun r s h => ?_⟩
  have hr := Response.ofValue?_toValue r
  rw [h, Response.ofValue?_toValue s] at hr
  exact (Option.some.inj hr).symm

end RustOutline
