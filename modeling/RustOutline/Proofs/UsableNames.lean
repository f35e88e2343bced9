import RustOutline.Proofs.ConcreteTree
import RustOutline.Proofs.FaithfulCuts
import RustOutline.Proofs.ImplIndexing

/-! Every name in an outline is usable: not empty, without blanks at its ends, and spelled by nodes
that the parser found. The same holds of the names and type texts by which impl blocks are joined to
data types, so no block is joined to a data type for want of a name. -/
namespace RustOutline
open Text

/-- The names that stand in a scope, each with the place of what it names. -/
inductive Scope.Names (scope : Scope) : String → Span → Prop
  | item {item : Item} (listed : item.ListedIn scope.items) : Names scope item.name item.span
  | traitMethod {item : Item} {methods : List TraitMethod} {m : TraitMethod}
      (mem : item ∈ scope.items) (details : item.details = .trait methods)
      (declared : m ∈ methods) : Names scope m.name m.span
  | reference {r : ModuleReference} (mem : r ∈ scope.references) : Names scope r.name r.span

/-- The child in a role was found by the parser, and this is its trimmed text. -/
def Node.Spells (source : Utf8.Bytes) (n : Node) (role name : String) : Prop :=
  ∃ c, n.child? role = some c ∧ c.missing = false ∧ name = strip (c.text source)

/-- What names a declaration: the child in the role that its kind takes names from, and for an impl
block of a trait both the trait and the type. -/
inductive Node.NamedAs (source : Utf8.Bytes) (n : Node) : String → Prop
  | own {name : String} (spelled : n.Spells source (nameRole n.kind) name) : NamedAs source n name
  | traitImpl {trait type : String} (kind : n.kind = "impl_item")
      (first : n.Spells source "trait" trait) (second : n.Spells source "type" type) :
      NamedAs source n (trait ++ " for " ++ type)

section Texts
variable {source : Utf8.Bytes} {n : Node} {role name : String}

/-- A child gives its text only if the parser found it and something is left after trimming. -/
theorem Node.fieldText?_found (h : n.fieldText? source role = some name) :
    Usable name.toList ∧ n.Spells source role name := by
  unfold fieldText? at h
  split at h
  · cases h
  · next c hc =>
    split at h
    · cases h
    · next hmissing =>
      dsimp only at h
      split at h
      · cases h
      · next hempty =>
        obtain rfl := Option.some.inj h
        refine ⟨?_, c, hc, by simpa using hmissing, rfl⟩
        rw [strip, String.toList_ofList]
        apply usable_trim
        intro hnil
        exact hempty (by simp [strip, hnil])

theorem Node.name_found (hrole : nameRole n.kind = role)
    (h : n.fieldText? source role = some name) : Usable name.toList ∧ n.NamedAs source name := by
  obtain ⟨husable, hspells⟩ := fieldText?_found h
  exact ⟨husable, .own (hrole ▸ hspells)⟩

theorem Node.implName?_found (hk : n.kind = "impl_item") (h : n.implName? source = some name) :
    Usable name.toList ∧ n.NamedAs source name := by
  unfold implName? at h
  split at h
  · cases h
  · next type htype =>
    split at h
    · obtain rfl := Option.some.inj h
      exact name_found (by rw [hk]; rfl) htype
    · next trait htrait =>
      obtain rfl := Option.some.inj h
      obtain ⟨husable, hfirst⟩ := fieldText?_found htrait
      obtain ⟨husable', hsecond⟩ := fieldText?_found htype
      refine ⟨?_, .traitImpl hk hfirst hsecond⟩
      rw [String.toList_append, String.toList_append]
      exact husable.append husable' _

theorem Form.nameRole_eq {form : Form} (h : ofKind? n.kind = some form)
    (himpl : form ≠ .other .impl) (huse : form ≠ .other .useDecl) : nameRole n.kind = "name" := by
  unfold ofKind? at h
  split at h <;> simp_all [nameRole]

theorem Form.name?_found {form : Form} (hform : ofKind? n.kind = some form)
    (h : form.name? source n = some name) : Usable name.toList ∧ n.NamedAs source name := by
  unfold name? at h
  split at h
  · exact Node.implName?_found (kind_eq_of_impl hform) h
  · exact Node.name_found (by rw [kind_eq_of_useDecl hform]; rfl) h
  · next himpl huse => exact Node.name_found (nameRole_eq hform himpl huse) h

end Texts

namespace FileContext
variable {ctx : FileContext} {root n : Node} {item : Item}

theorem ItemOf.name_found {enclosing : List String} {s : Site} (h : ctx.ItemOf enclosing s item) :
    Usable item.name.toList ∧ s.node.NamedAs ctx.source item.name := by
  cases h with
  | inlineModule kind named _ => exact Node.name_found (by rw [kind]; rfl) named
  | dataType form named => exact Form.name?_found form named
  | plain kind _ named => exact Form.name?_found kind named

theorem Makes.name_found (h : ctx.Makes root n item) :
    Usable item.name.toList ∧ n.NamedAs ctx.source item.name := by
  cases h with
  | member _ _ _ made => exact made.name_found
  | method _ _ _ _ _ made =>
    obtain ⟨hk, -, name, hname, rfl⟩ := implMethod?_eq_some.mp made
    exact Node.name_found (by rw [hk]; rfl) hname

end FileContext

theorem TraitMethod.MadeOf.name_found {source : Utf8.Bytes} {n f : Node} {m : TraitMethod}
    (h : m.MadeOf source n f) : Usable m.name.toList ∧ f.NamedAs source m.name := by
  cases h with
  | @mk _ f _ _ _ made =>
    unfold traitMethod? at made
    split at made
    · next hk =>
      obtain ⟨name, hname, rfl⟩ := Option.map_eq_some_iff.mp made
      have hrole : nameRole f.node.kind = "name" := by
        simp only [isFunctionKind, Bool.or_eq_true, beq_iff_eq] at hk
        rcases hk with hk | hk <;> rw [hk] <;> rfl
      exact Node.name_found hrole hname
    · cases made

section Outline
variable {source : Utf8.Bytes} {includePrivate : Bool} {root : Node} {name : String}

/-- A name in a scope is usable, and names a node of the tree at its place. -/
theorem exists_namedAs {scope : Scope} {span : Span} {parseTimeMs : Int}
    (hc : (extract source root includePrivate parseTimeMs).file.Contains scope)
    (h : scope.Names name span) :
    Usable name.toList ∧ ∃ n ∈ root.preorder, n.span = span ∧ n.NamedAs source name := by
  cases h with
  | item listed =>
    obtain ⟨n, hmakes⟩ := exists_makes hc listed
    obtain ⟨husable, hnamed⟩ := hmakes.name_found
    exact ⟨husable, n, hmakes.mem_preorder, hmakes.stands.span.symm, hnamed⟩
  | traitMethod mem details declared =>
    obtain ⟨n, hmakes⟩ := exists_makes hc (.own mem)
    obtain ⟨f, hmade⟩ := hmakes.exists_madeOf details declared
    obtain ⟨husable, hnamed⟩ := hmade.name_found
    have hf := Node.mem_preorder_trans hmakes.mem_preorder hmade.mem_preorder
    exact ⟨husable, f, hf, hmade.fields.1.symm, hnamed⟩
  | reference mem =>
    obtain ⟨enclosing, n, hn, rfl⟩ := FileContext.exists_enters_of_contains hc
    obtain ⟨s, hs, -, ⟨hk, -⟩, ⟨named⟩⟩ := FileContext.mem_references.mp mem
    obtain ⟨husable, hnamed⟩ := Node.name_found (by rw [hk]; rfl) named
    have hmem := Node.mem_preorder_trans hn.mem_preorder (Site.mem_preorder_of_mem_members hs)
    exact ⟨husable, s.node, hmem, rfl, hnamed⟩

theorem exists_spells_of_dataNames
    (h : name ∈ (ImplIndex.build source includePrivate root).dataNames) :
    Usable name.toList ∧ ∃ n ∈ root.reach, n.kind ∈ ["struct_item", "enum_item", "union_item"] ∧
      n.Spells source "name" name := by
  obtain ⟨n, hn, hname⟩ := ImplIndex.mem_dataNames_build.mp h
  unfold Node.dataName? at hname
  split at hname
  · next hk =>
    obtain ⟨husable, hspells⟩ := Node.fieldText?_found hname
    exact ⟨husable, n, hn, (isDataKind_iff n.kind).mp hk, hspells⟩
  · cases hname

theorem exists_spells_of_blocks {block : ImplBlock}
    (h : block ∈ (ImplIndex.build source includePrivate root).blocks) :
    Usable block.typeText.toList ∧ ∃ n ∈ root.reach, n.kind = "impl_item" ∧
      n.Spells source "type" block.typeText := by
  obtain ⟨path, n, hleads, hk, hof⟩ := exists_leads_of_mem_blocks h
  obtain ⟨husable, hspells⟩ := Node.fieldText?_found hof.typeText
  exact ⟨husable, n, Node.mem_reach.mpr ⟨path, hleads⟩, hk, hspells⟩

end Outline

/-- Every name in a response is usable, at any depth and wherever it stands, and names the node at
its place by children that the parser found. So are the names and type texts of the impl index; the
empty name, which occurs in every type text, is not among them. -/
theorem names_usable (source : Utf8.Bytes) (root : Node) (includePrivate : Bool)
    (parseTimeMs : Int) :
    (∀ scope, (extract source root includePrivate parseTimeMs).file.Contains scope →
      ∀ name span, scope.Names name span →
        Usable name.toList ∧ ∃ n ∈ root.preorder, n.span = span ∧ n.NamedAs source name) ∧
    (∀ name ∈ (ImplIndex.build source includePrivate root).dataNames, Usable name.toList ∧
      ∃ n ∈ root.reach, n.kind ∈ ["struct_item", "enum_item", "union_item"] ∧
        n.Spells source "name" name) ∧
    (∀ block ∈ (ImplIndex.build source includePrivate root).blocks,
      Usable block.typeText.toList ∧ ∃ n ∈ root.reach, n.kind = "impl_item" ∧
        n.Spells source "type" block.typeText) ∧
    "" ∉ (ImplIndex.build source includePrivate root).dataNames := by
  refine ⟨fun scope hc name span => exists_namedAs hc, fun name => exists_spells_of_dataNames,
    fun block => exists_spells_of_blocks, fun hempty => ?_⟩
  obtain ⟨⟨⟨c, hc, -⟩, -⟩, -⟩ := exists_spells_of_dataNames hempty
  cases hc

namespace UnnamedModule

/-- A data type, a block of a trait, and a module for whose name the parser put in an empty node. -/
def source : Utf8.Bytes := Utf8.encode "struct Sam;\nimpl A for B \x7b\x7d\nmod \x7b\x7d"

private abbrev node := Node.ofRange source
private abbrev token := Node.token source

def dataType : Node := node "struct_item" none 0 11 [
  token "struct" 0 6, node "type_identifier" (some "name") 7 10 [], token ";" 10 11]

def block : Node := node "impl_item" none 12 27 [
  token "impl" 12 16, node "type_identifier" (some "trait") 17 18 [], token "for" 19 22,
  node "type_identifier" (some "type") 23 24 [],
  node "declaration_list" (some "body") 25 27 [token "\x7b" 25 26, token "\x7d" 26 27]]

def unnamed : Node := node "mod_item" none 28 34 [
  token "mod" 28 31, { node "identifier" (some "name") 31 31 [] with missing := true },
  node "declaration_list" (some "body") 32 34 [token "\x7b" 32 33, token "\x7d" 33 34]]

def root : Node := node "source_file" none 0 34 [dataType, block, unnamed]

theorem items_eq : (extract source root true 0).file.items.map (fun i => (i.name, i.span)) =
    [("Sam", dataType.span), ("A for B", block.span)] := by decide +kernel

theorem index_eq : (ImplIndex.build source true root).dataNames = ["Sam"] ∧
    (ImplIndex.build source true root).blocks.map ImplBlock.typeText = ["B"] := by decide +kernel

/-- The module is not listed; the block is, by the names of its trait and of its type. -/
theorem listed_by_name :
    (extract source root true 0).file.items.map (fun i => (i.name, i.span)) =
      [("Sam", dataType.span), ("A for B", block.span)] ∧
    (∃ n ∈ root.preorder, n.span = block.span ∧ n.NamedAs source "A for B") ∧
    (∃ n ∈ root.reach, n.Spells source "name" "Sam") ∧
    ∃ n ∈ root.reach, n.Spells source "type" "B" := by
  obtain ⟨hall, hnames, hblocks, -⟩ := names_usable source root true 0
  obtain ⟨item, hitem, hshown⟩ : ∃ i ∈ (extract source root true 0).file.items,
      (i.name, i.span) = ("A for B", block.span) := by
    rw [← List.mem_map, items_eq]
    decide
  obtain ⟨hname, hspan⟩ := Prod.mk.inj hshown
  obtain ⟨-, hnamed⟩ := hall _ .self _ _ (.item (.own hitem))
  rw [hname, hspan] at hnamed
  obtain ⟨b, hb, htype⟩ : ∃ b ∈ (ImplIndex.build source true root).blocks, b.typeText = "B" := by
    rw [← List.mem_map, index_eq.2]
    exact List.mem_singleton_self _
  rw [index_eq.1] at hnames
  obtain ⟨-, n, hn, -, hspells⟩ := hnames "Sam" (List.mem_singleton_self _)
  obtain ⟨-, m, hm, -, hspells'⟩ := hblocks b hb
  exact ⟨items_eq, hnamed, ⟨n, hn, hspells⟩, m, hm, htype ▸ hspells'⟩

end UnnamedModule
end RustOutline
