import Mathlib.Data.List.Flatten
import RustOutline.Outline.Response
import RustOutline.Proofs.ImplIndexing

/-! How data types share methods. A block that mentions a name mentions every part of it, so the
longer of two names gets no more than the shorter one, and data types of one name get the same,
wherever they stand. -/
namespace RustOutline

namespace ImplIndex
variable (index : ImplIndex) {a b : String}

theorem mentions_of_infix {block : ImplBlock} (h : a.toList <:+: b.toList)
    (hb : mentions block b = true) : mentions block a = true := by
  rw [mentions_iff] at hb ⊢
  exact h.trans hb

theorem blocksFor_sublist (h : a.toList <:+: b.toList) :
    (index.blocksFor b).Sublist (index.blocksFor a) := by
  apply List.monotone_filter_right
  intro block hb
  exact mentions_of_infix h hb

theorem methodsFor_sublist (h : a.toList <:+: b.toList) :
    (index.methodsFor b).Sublist (index.methodsFor a) := by
  rw [methodsFor_eq, methodsFor_eq]
  exact (index.blocksFor_sublist h).flatMap ImplBlock.methods

theorem blocksFor_empty : index.blocksFor "" = index.blocks := by
  rw [blocksFor, List.filter_eq_self]
  intro block _
  rw [mentions_iff]
  exact List.nil_infix

end ImplIndex

/-- The response lists a data type of this name, in whatever scope, with these methods. -/
def Response.ListsType (r : Response) (name : String) (methods : List Item) : Prop :=
  ∃ scope item kind, r.file.Contains scope ∧ item ∈ scope.items ∧ item.name = name ∧
    item.details = .dataType kind methods

/-- The name alone decides which methods a data type gets. -/
theorem Response.ListsType.methods_eq {source : Utf8.Bytes} {root : Node} {includePrivate : Bool}
    {parseTimeMs : Int} {name : String} {methods : List Item}
    (h : (extract source root includePrivate parseTimeMs).ListsType name methods) :
    methods = (ImplIndex.build source includePrivate root).methodsFor name := by
  obtain ⟨scope, item, kind, hc, hi, rfl, hd⟩ := h
  have hcontains : ((FileContext.ofFile source includePrivate root).assembleInside [] root).Contains
      scope := hc
  obtain ⟨enclosing, n, _, rfl⟩ := FileContext.exists_enters_of_contains hcontains
  obtain ⟨_, _, _, hof⟩ := FileContext.mem_items.mp hi
  exact hof.methods_eq hd

/-- Methods go by the name. A name gets a part of what any part of it gets, block by block and in the
same order; the empty name gets all. So data types of one name have the same methods, and those of a
data type whose name contains another's are among the methods of the other. -/
theorem methods_follow_names (source : Utf8.Bytes) (root : Node) (includePrivate : Bool)
    (parseTimeMs : Int) :
    let index := ImplIndex.build source includePrivate root
    let response := extract source root includePrivate parseTimeMs
    (∀ name, index.methodsFor name = (index.blocksFor name).flatMap ImplBlock.methods) ∧
    (∀ a b : String, a.toList <:+: b.toList →
      (index.blocksFor b).Sublist (index.blocksFor a) ∧
      (index.methodsFor b).Sublist (index.methodsFor a)) ∧
    index.methodsFor "" = index.blocks.flatMap ImplBlock.methods ∧
    (∀ name methods methods', response.ListsType name methods →
      response.ListsType name methods' → methods = methods') ∧
    ∀ (a b : String) (methods methods' : List Item), a.toList <:+: b.toList →
      response.ListsType a methods → response.ListsType b methods' →
      methods'.Sublist methods := by
  intro index response
  refine ⟨index.methodsFor_eq, fun a b h => ⟨index.blocksFor_sublist h, index.methodsFor_sublist h⟩,
    ?_, ?_, ?_⟩
  · rw [index.methodsFor_eq, index.blocksFor_empty]
  · intro name methods methods' h h'
    exact h.methods_eq.trans h'.methods_eq.symm
  · intro a b methods methods' hab h h'
    rw [h.methods_eq, h'.methods_eq]
    exact index.methodsFor_sublist hab

namespace RelatedNames
open FileContext

theorem listsType {s : Site} {name : String} (hs : s ∈ Site.members root)
    (hk : s.node.kind = "struct_item") (hn : s.node.fieldText? source "name" = some name) :
    (extract source root true 0).ListsType name
      ((ImplIndex.build source true root).methodsFor name) := by
  have keeps : (ofFile source true root).Keeps s := {
    kind := .inr (by simp [hk, formKinds])
    named := by simp [hk, nameRole, hn]
    included := by simp [Visibility.included]
    loose := by simp [hk] }
  have hform : Form.ofKind? s.node.kind = some (.dataType .struct) := by
    rw [hk]
    rfl
  exact ⟨_, _, .struct, .self, mem_items.mpr ⟨s, hs, keeps, .dataType hform hn⟩, rfl, rfl⟩

/-- The structure `Sample` gets one of the two methods of `Sam`. -/
theorem methods_shared : "Sam".toList <:+: "Sample".toList ∧
    ∃ methods methods', (extract source root true 0).ListsType "Sam" methods ∧
      (extract source root true 0).ListsType "Sample" methods' ∧
      methods.map Item.name = ["a", "b"] ∧ methods'.map Item.name = ["a"] ∧
      methods'.Sublist methods := by
  have part : "Sam".toList <:+: "Sample".toList := by decide
  have hmembers : Site.members root = [
      ⟨dataType 0 11, false, []⟩, ⟨dataType 12 26, false, [dataType 0 11]⟩,
      ⟨block 27 38, false, [dataType 12 26, dataType 0 11]⟩,
      ⟨block 53 61, false, [block 27 38, dataType 12 26, dataType 0 11]⟩,
      ⟨block 76 86, false, [block 53 61, block 27 38, dataType 12 26, dataType 0 11]⟩] := rfl
  have shorter := listsType (s := ⟨dataType 0 11, false, []⟩) (by simp [hmembers]) rfl
    (show _ = some "Sam" by decide +kernel)
  have longer := listsType (s := ⟨dataType 12 26, false, [dataType 0 11]⟩) (by simp [hmembers]) rfl
    (show _ = some "Sample" by decide +kernel)
  obtain ⟨_, _, _, _, hsublist⟩ := methods_follow_names source root true 0
  exact ⟨part, _, _, shorter, longer, by decide +kernel, by decide +kernel,
    hsublist _ _ _ _ part shorter longer⟩

end RelatedNames
end RustOutline
