import Mathlib.Data.List.Infix
import RustOutline.Proofs.ImplRetention
import RustOutline.Proofs.SpanOrder
import RustOutline.Proofs.Utf8Inverse

/-! The cuts that nodes make in a text, and the node behind every item of an outline: an item shows
the text of its node, and only a node with a usable name becomes one. -/
namespace RustOutline

namespace Utf8

/-- An offset between two characters of a text, or at one of its ends. -/
def IsBoundary (cs : List Char) (offset : Nat) : Prop :=
  ∃ before ∈ cs.inits, (encodeChars before).length = offset

instance (cs : List Char) (offset : Nat) : Decidable (IsBoundary cs offset) :=
  inferInstanceAs (Decidable (∃ before ∈ cs.inits, (encodeChars before).length = offset))

@[simp] theorem encodeChars_append (cs ds : List Char) :
    encodeChars (cs ++ ds) = encodeChars cs ++ encodeChars ds :=
  List.flatMap_append

theorem isBoundary_append (before after : List Char) :
    IsBoundary (before ++ after) (encodeChars before).length :=
  ⟨before, (List.mem_inits _ _).mpr ⟨after, rfl⟩, rfl⟩

theorem IsBoundary.le_length {cs : List Char} {offset : Nat} (h : IsBoundary cs offset) :
    offset ≤ (encodeChars cs).length := by
  obtain ⟨before, hbefore, rfl⟩ := h
  obtain ⟨after, rfl⟩ := (List.mem_inits _ _).mp hbefore
  simp

end Utf8

section Slice
variable {start stop : Nat}

theorem slice_append_left {bs : Utf8.Bytes} (h : stop ≤ bs.length) (after : Utf8.Bytes) :
    slice (bs ++ after) start stop = slice bs start stop := by
  unfold slice
  by_cases hstart : start ≤ stop
  · rw [List.drop_append_of_le_length (by omega), List.take_append_of_le_length]
    rw [List.length_drop]
    omega
  · rw [Nat.sub_eq_zero_of_le (by omega), List.take_zero, List.take_zero]

theorem exists_slice_eq {cs : List Char} (hstart : Utf8.IsBoundary cs start)
    (hstop : Utf8.IsBoundary cs stop) (h : start ≤ stop) : ∃ middle, middle <:+: cs ∧
      slice (Utf8.encodeChars cs) start stop = Utf8.encodeChars middle := by
  obtain ⟨first, hfirst, rfl⟩ := hstart
  obtain ⟨second, hsecond, rfl⟩ := hstop
  rw [List.mem_inits] at hfirst hsecond
  rcases List.prefix_or_prefix_of_prefix hfirst hsecond with ⟨middle, rfl⟩ | ⟨more, rfl⟩
  · obtain ⟨after, rfl⟩ := hsecond
    exact ⟨middle, ⟨first, after, rfl⟩, by simp [slice]⟩
  · refine ⟨[], List.nil_infix, ?_⟩
    rw [Utf8.encodeChars_append, List.length_append] at h ⊢
    rw [slice, Nat.sub_eq_zero_of_le (by omega)]
    rfl

end Slice

/-- The ranges of the tree run forward and cut no character of the text. -/
def Node.CutsNoCharacter (root : Node) (text : String) : Prop :=
  ∀ n ∈ root.preorder, n.start ≤ n.stop ∧
    Utf8.IsBoundary text.toList n.start ∧ Utf8.IsBoundary text.toList n.stop

instance (root : Node) (text : String) : Decidable (root.CutsNoCharacter text) :=
  inferInstanceAs (Decidable (∀ n ∈ root.preorder, _))

/-- The bytes of a node encode a part of the text. -/
theorem Node.CutsNoCharacter.exists_bytes_eq {root n : Node} {text : String}
    (h : root.CutsNoCharacter text) (hn : n ∈ root.preorder) :
    ∃ middle, middle <:+: text.toList ∧ n.bytes (Utf8.encode text) = Utf8.encodeChars middle := by
  obtain ⟨forward, hstart, hstop⟩ := h n hn
  exact exists_slice_eq hstart hstop forward

/-- A tree of a text: its ranges are laid out in order and cut no character. -/
structure Node.TreeOf (root : Node) (text : String) : Prop where
  wellFormed : root.WellFormed
  boundaries : ∀ n ∈ root.preorder,
    Utf8.IsBoundary text.toList n.start ∧ Utf8.IsBoundary text.toList n.stop

instance (root : Node) (text : String) : Decidable (root.TreeOf text) :=
  decidable_of_iff (root.WellFormed ∧ ∀ n ∈ root.preorder,
      Utf8.IsBoundary text.toList n.start ∧ Utf8.IsBoundary text.toList n.stop)
    ⟨fun h => ⟨h.1, h.2⟩, fun h => ⟨h.wellFormed, h.boundaries⟩⟩

namespace Node.TreeOf
variable {root n : Node} {text : String}

theorem cutsNoCharacter (h : root.TreeOf text) : root.CutsNoCharacter text :=
  fun n hn => ⟨(h.wellFormed n hn).forward, h.boundaries n hn⟩

theorem exists_text_eq (h : root.TreeOf text) (hn : n ∈ root.preorder) : ∃ middle,
    middle <:+: text.toList ∧ n.text (Utf8.encode text) = String.ofList middle := by
  obtain ⟨middle, hmiddle, hbytes⟩ := h.cutsNoCharacter.exists_bytes_eq hn
  refine ⟨middle, hmiddle, ?_⟩
  rw [Node.text, hbytes, Utf8.decode, Utf8.decodeChars_encodeChars]

/-- In a blank text nothing has a name. -/
theorem fieldText?_eq_none (h : root.TreeOf text) (hn : n ∈ root.preorder)
    (blank : ∀ c ∈ text.toList, Text.isBlank c) (role : String) :
    n.fieldText? (Utf8.encode text) role = none := by
  unfold Node.fieldText?
  cases hc : n.child? role with
  | none => rfl
  | some c =>
    have hmem := Node.mem_children_of_child? hc
    have hpre := Node.mem_preorder_trans hn (Node.mem_preorder_of_child hmem (Node.mem_preorder_self c))
    obtain ⟨middle, hmiddle, htext⟩ := h.exists_text_eq hpre
    have hblank : middle.all Text.isBlank = true :=
      List.all_eq_true.mpr fun c hc => blank c (hmiddle.subset hc)
    have hstrip : Text.strip (String.ofList middle) = "" := by
      rw [Text.strip, String.toList_ofList, Text.trim_eq_nil_iff.mpr hblank, String.ofList_nil]
    simp [htext, hstrip]

end Node.TreeOf

/-- An item of a list, or a method of a data type there. -/
inductive Item.ListedIn (items : List Item) : Item → Prop
  | own {item : Item} (mem : item ∈ items) : ListedIn items item
  | method {item method : Item} {kind : DataKind} {methods : List Item} (mem : item ∈ items)
      (details : item.details = .dataType kind methods) (declared : method ∈ methods) :
      ListedIn items method

/-- The item shows the text and the place of the node, which has a usable name. -/
structure Item.Stands (source : Utf8.Bytes) (n : Node) (item : Item) : Prop where
  rawText : item.rawText = n.text source
  span : item.span = n.span
  named : ∃ role, (n.fieldText? source role).isSome

/-- How an item of a file was made: of a member that is kept in some scope, or, as a method, of a
function in the body of an impl block. -/
inductive FileContext.Makes (ctx : FileContext) (root : Node) : Node → Item → Prop
  | member {enclosing : List String} {n : Node} {s : Site} {item : Item}
      (entered : ctx.Enters root enclosing n) (mem : s ∈ Site.members n) (keeps : ctx.Keeps s)
      (made : ctx.ItemOf enclosing s item) : Makes ctx root s.node item
  | method {n body : Node} {f : Site} {item : Item} (reached : n ∈ root.reach)
      (kind : n.kind = "impl_item") (typed : (n.fieldText? ctx.source "type").isSome)
      (inner : n.child? "body" = some body) (mem : f ∈ Site.namedChildren body)
      (made : implMethod? ctx.source ctx.includePrivate f = some item) : Makes ctx root f.node item

/-- What is found among the named children of a body stands below the node. -/
theorem Node.mem_preorder_of_body {n body : Node} {f : Site} (inner : n.child? "body" = some body)
    (mem : f ∈ Site.namedChildren body) : f.node ∈ n.preorder := by
  have hchild := Node.mem_preorder_of_child (Site.mem_children_of_mem_namedChildren mem)
    (Node.mem_preorder_self f.node)
  exact Node.mem_preorder_of_child (Node.mem_children_of_child? inner) hchild

namespace FileContext
variable {ctx : FileContext} {root n : Node} {item : Item}

theorem Makes.mem_preorder (h : ctx.Makes root n item) : n ∈ root.preorder := by
  cases h with
  | member entered mem _ _ =>
    exact Node.mem_preorder_trans entered.mem_preorder (Site.mem_preorder_of_mem_members mem)
  | method reached _ _ inner mem _ =>
    exact Node.mem_preorder_trans (Node.mem_preorder_of_mem_reach reached)
      (Node.mem_preorder_of_body inner mem)

theorem Makes.stands (h : ctx.Makes root n item) : item.Stands ctx.source n := by
  cases h with
  | member _ _ keeps made =>
    exact ⟨made.fields.1, made.fields.2.2.2, _, keeps.named⟩
  | method _ _ _ _ _ made =>
    obtain ⟨_, _, name, hname, rfl⟩ := implMethod?_eq_some.mp made
    exact ⟨rfl, rfl, "name", Option.isSome_of_eq_some hname⟩

end FileContext

section Nodes
variable {source : Utf8.Bytes} {includePrivate : Bool} {root : Node}

/-- Methods stand in the bodies of blocks, wherever these are. -/
theorem exists_makes_of_methodsFor {name : String} {method : Item}
    (h : method ∈ (ImplIndex.build source includePrivate root).methodsFor name) :
    ∃ n, (FileContext.ofFile source includePrivate root).Makes root n method := by
  obtain ⟨n, hn, hk, typed, hm⟩ := exists_implMethod_of_methodsFor h
  unfold Node.implMethods at hm
  split at hm
  · cases hm
  · next body hb =>
    obtain ⟨f, hf, hmethod⟩ := List.mem_filterMap.mp hm
    exact ⟨f.node, .method hn hk typed hb hf hmethod⟩

theorem exists_makes {scope : Scope} {item : Item} {parseTimeMs : Int}
    (hc : (extract source root includePrivate parseTimeMs).file.Contains scope)
    (hi : item.ListedIn scope.items) :
    ∃ n, (FileContext.ofFile source includePrivate root).Makes root n item := by
  obtain ⟨enclosing, n, hn, rfl⟩ := FileContext.exists_enters_of_contains hc
  cases hi with
  | own mem =>
    obtain ⟨s, hs, hk, hof⟩ := FileContext.mem_items.mp mem
    exact ⟨s.node, .member hn hs hk hof⟩
  | method mem details declared =>
    obtain ⟨s, hs, hk, hof⟩ := FileContext.mem_items.mp mem
    obtain rfl := hof.methods_eq details
    exact exists_makes_of_methodsFor declared

/-- Behind every listed item there is a node of the tree. -/
theorem exists_stands {scope : Scope} {item : Item} {parseTimeMs : Int}
    (hc : (extract source root includePrivate parseTimeMs).file.Contains scope)
    (hi : item.ListedIn scope.items) : ∃ n ∈ root.preorder, item.Stands source n := by
  obtain ⟨n, hmakes⟩ := exists_makes hc hi
  exact ⟨n, hmakes.mem_preorder, hmakes.stands⟩

end Nodes
end RustOutline
