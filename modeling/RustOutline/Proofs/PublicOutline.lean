import RustOutline.Outline.Response
import RustOutline.Proofs.MemberContribution

/-! The outline without private declarations is the full outline, pruned. Which blocks count as
attached does not depend on the inclusion policy; only the methods that they hand out do. -/
namespace RustOutline

mutual
/-- The item without the private declarations inside it. -/
def Item.prune : Item → Item
  | ⟨name, rawText, doc, visibility, span, details⟩ =>
    ⟨name, rawText, doc, visibility, span, Item.pruneDetails details⟩

def Item.pruneDetails : Details Item → Details Item
  | .dataType kind methods => .dataType kind (methods.filter (!·.visibility.isPrivate))
  | .inlineModule items references =>
    .inlineModule (Item.pruneAll items) (references.filter (!·.visibility.isPrivate))
  | .function signature => .function signature
  | .trait methods => .trait methods
  | .other kind => .other kind

/-- Private items go with all their content. -/
def Item.pruneAll : List Item → List Item
  | [] => []
  | item :: rest =>
    if item.visibility.isPrivate then Item.pruneAll rest else Item.prune item :: Item.pruneAll rest
end

def Scope.prune (s : Scope) : Scope where
  items := Item.pruneAll s.items
  references := s.references.filter (!·.visibility.isPrivate)

/-- Only declarations are pruned: success, time and diagnostics stay. -/
def Response.prune (r : Response) : Response := { r with file := r.file.prune }

namespace Item

theorem prune_eq (item : Item) :
    item.prune = { item with details := pruneDetails item.details } := by
  cases item
  rw [prune]

theorem pruneAll_eq (items : List Item) :
    pruneAll items = (items.filter (!·.visibility.isPrivate)).map prune := by
  induction items with
  | nil => rw [pruneAll]; rfl
  | cons item rest ih =>
    rw [pruneAll, ih, List.filter_cons]
    cases item.visibility.isPrivate <;> simp

end Item

namespace Scope

theorem prune_empty : Scope.empty.prune = .empty := by
  simp [prune, Item.pruneAll_eq, Scope.empty]

theorem prune_append (s t : Scope) : (s ++ t).prune = s.prune ++ t.prune := by
  ext1 <;> simp [prune, Item.pruneAll_eq]

theorem prune_join (scopes : List Scope) : (join scopes).prune = join (scopes.map prune) := by
  induction scopes with
  | nil => exact prune_empty
  | cons s rest ih => rw [join, prune_append, ih, List.map_cons, join]

theorem prune_ofItem (item : Item) :
    (ofItem item).prune = if item.visibility.isPrivate then .empty else .ofItem item.prune := by
  unfold prune ofItem
  rw [Item.pruneAll_eq]
  cases h : item.visibility.isPrivate <;> simp [h, Scope.empty]

theorem prune_ofReference (r : ModuleReference) :
    (ofReference r).prune = if r.visibility.isPrivate then .empty else .ofReference r := by
  unfold prune ofReference
  cases h : r.visibility.isPrivate <;> simp [h, Item.pruneAll, Scope.empty]

end Scope

section Blocks
variable (source : Utf8.Bytes)

theorem visibility_of_declaration? {s : Site} {item : Item}
    (h : s.declaration? source = some item) :
    item.visibility = Visibility.ofNode source s.node := by
  unfold Site.declaration? at h
  cases hf : Form.ofKind? s.node.kind with
  | none => simp [hf] at h
  | some form =>
    simp only [hf, Option.map_eq_some_iff] at h
    obtain ⟨name, _, rfl⟩ := h
    rfl

theorem implMethod?_public (s : Site) :
    implMethod? source false s =
      (implMethod? source true s).filter (!·.visibility.isPrivate) := by
  unfold implMethod?
  by_cases hk : s.node.kind = "function_item"
  · cases hd : s.declaration? source with
    | none => simp
    | some item =>
      have hv := visibility_of_declaration? source hd
      cases hp : (Visibility.ofNode source s.node).isPrivate <;>
        simp [hk, hv, hp, Visibility.included, Option.filter]
  · simp [hk]

theorem implMethods_public (n : Node) :
    n.implMethods source false =
      (n.implMethods source true).filter (!·.visibility.isPrivate) := by
  unfold Node.implMethods
  cases n.child? "body" with
  | none => rfl
  | some body =>
    simp only [List.filter_filterMap]
    exact congrArg (List.filterMap · _) (funext fun s => implMethod?_public source s)

theorem blocks_public (root : Node) :
    (ImplIndex.build source false root).blocks =
      (ImplIndex.build source true root).blocks.map fun block =>
        { block with methods := block.methods.filter (!·.visibility.isPrivate) } := by
  simp only [ImplIndex.build_eq, List.map_filterMap]
  refine congrArg (List.filterMap · _) (funext fun n => ?_)
  unfold Node.implBlock?
  split
  · cases n.fieldText? source "type" <;> simp [implMethods_public]
  · rfl

theorem dataNames_public (root : Node) :
    (ImplIndex.build source false root).dataNames = (ImplIndex.build source true root).dataNames := by
  simp only [ImplIndex.build_eq]

theorem methodsFor_public (root : Node) (name : String) :
    (ImplIndex.build source false root).methodsFor name =
      ((ImplIndex.build source true root).methodsFor name).filter (!·.visibility.isPrivate) := by
  unfold ImplIndex.methodsFor
  rw [blocks_public, List.filter_map, List.flatMap_map, List.filter_flatMap]
  rfl

theorem isAttached_public (root n : Node) :
    (ImplIndex.build source false root).isAttached n =
      (ImplIndex.build source true root).isAttached n := by
  unfold ImplIndex.isAttached
  rw [blocks_public, dataNames_public, List.any_map]
  rfl

end Blocks

namespace FileContext
variable {source : Utf8.Bytes} {root : Node} {enclosing : List String} {s : Site} {item : Item}

theorem keeps_public :
    (ofFile source false root).Keeps s ↔
      (ofFile source true root).Keeps s ∧ (Visibility.ofNode source s.node).isPrivate = false := by
  constructor
  · intro h
    refine ⟨⟨h.kind, h.named, by simp [Visibility.included], ?_⟩, ?_⟩
    · simpa [isAttached_public] using h.loose
    · simpa [Visibility.included] using h.included
  · rintro ⟨h, hv⟩
    refine ⟨h.kind, h.named, by simp [Visibility.included, hv], ?_⟩
    simpa [isAttached_public] using h.loose

/-- Assembly of the public declarations inside a node is full assembly, pruned. -/
def AgreesOn (source : Utf8.Bytes) (root n : Node) : Prop :=
  ∀ enclosing, (ofFile source false root).assembleInside enclosing n =
    ((ofFile source true root).assembleInside enclosing n).prune

theorem ItemOf.prune (inside : ∀ body, s.node.child? "body" = some body → AgreesOn source root body)
    (h : (ofFile source true root).ItemOf enclosing s item) :
    (ofFile source false root).ItemOf enclosing s item.prune := by
  cases h with
  | inlineModule kind named inner =>
    have hi : (ofFile source false root).ItemOf enclosing s _ := .inlineModule kind named inner
    rw [inside _ inner] at hi
    simpa [Item.prune_eq, Item.pruneDetails, Site.item, Scope.prune] using hi
  | dataType form named =>
    have hi : (ofFile source false root).ItemOf enclosing s _ := .dataType form named
    simpa [Item.prune_eq, Item.pruneDetails, Site.item, methodsFor_public] using hi
  | @plain form name kind rest named =>
    have hi : (ofFile source false root).ItemOf enclosing s _ := .plain kind rest named
    cases form with
    | dataType data => exact absurd rfl (rest data)
    | function | trait | other =>
      simpa [Item.prune_eq, Item.pruneDetails, Site.item, Form.details] using hi

/-- What a member adds publicly is what it adds at all, pruned. -/
theorem contribution_public
    (inside : ∀ body, s.node.child? "body" = some body → AgreesOn source root body) :
    (ofFile source false root).contribution enclosing s =
      ((ofFile source true root).contribution enclosing s).prune := by
  obtain ⟨hk, hc⟩ | ⟨hk, hf, r, hr, hc⟩ | ⟨hk, _, item, hi, hc⟩ :=
    (ofFile source true root).contribution_cases enclosing s
  · rw [hc, Scope.prune_empty]
    exact contribution_of_not_keeps fun h => hk (keeps_public.mp h).1
  · have hv : r.visibility = Visibility.ofNode source s.node := by cases hr; rfl
    rw [hc, Scope.prune_ofReference, hv]
    split
    · next hp => exact contribution_of_not_keeps fun h => by simp [(keeps_public.mp h).2] at hp
    · next hp =>
      have hr' : (ofFile source false root).ReferenceOf enclosing s r := by
        cases hr with
        | fileModule hn => exact .fileModule hn
      exact contribution_of_referenceOf (keeps_public.mpr ⟨hk, by simpa using hp⟩) hf hr'
  · have hv : item.visibility = Visibility.ofNode source s.node := hi.fields.2.2.1
    rw [hc, Scope.prune_ofItem, hv]
    split
    · next hp => exact contribution_of_not_keeps fun h => by simp [(keeps_public.mp h).2] at hp
    · next hp =>
      exact contribution_of_itemOf (keeps_public.mpr ⟨hk, by simpa using hp⟩) (hi.prune inside)

theorem assembleInside_public (source : Utf8.Bytes) (root n : Node) : AgreesOn source root n := by
  induction n using Site.scopeInduction with
  | step n ih =>
    intro enclosing
    rw [assembleInside_eq_join, assembleInside_eq_join, Scope.prune_join, List.map_map]
    congr 1
    exact List.map_congr_left fun s hs => contribution_public (ih s hs)

end FileContext

/-- Extraction of the public declarations is full extraction followed by pruning. -/
theorem extract_public_eq_prune (source : Utf8.Bytes) (root : Node) (parseTimeMs : Int) :
    extract source root false parseTimeMs = (extract source root true parseTimeMs).prune := by
  have hfile : fileScope source false root = (fileScope source true root).prune :=
    FileContext.assembleInside_public source root root []
  unfold extract
  rw [hfile]
  rfl

end RustOutline
