import RustOutline.Proofs.ConcreteTree
import RustOutline.Proofs.MemberContribution

/-! What becomes of an impl block in the full outline. A block is listed unless it is attached, and
its methods go to the data types that the outline lists. Attachment looks at all data types of the
file, also at those that no scope lists, so a block can go missing; here is exactly when. -/
namespace RustOutline
open Text

theorem ImplIndex.mem_methodsFor {index : ImplIndex} {name : String} {method : Item} :
    method ∈ index.methodsFor name ↔
      ∃ block ∈ index.blocks, ImplIndex.mentions block name ∧ method ∈ block.methods := by
  simp only [ImplIndex.methodsFor, List.mem_flatMap, List.mem_filter, and_assoc]

/-- Attachment goes by byte range. -/
theorem ImplIndex.isAttached_eq_of_range (index : ImplIndex) {m n : Node} (hs : m.start = n.start)
    (he : m.stop = n.stop) : index.isAttached m = index.isAttached n := by
  unfold ImplIndex.isAttached
  rw [hs, he]

/-- The item is that of a named function directly in the body of the node. -/
def Node.HasMethod (source : Utf8.Bytes) (n : Node) (method : Item) : Prop :=
  ∃ body f name, n.child? "body" = some body ∧ f ∈ Site.namedChildren body ∧
    f.node.kind = "function_item" ∧ f.node.fieldText? source "name" = some name ∧
    method = f.item source name (.function (f.node.signature source))

/-- With private declarations a block holds all named functions of its body. -/
theorem Node.mem_implMethods {source : Utf8.Bytes} {n : Node} {method : Item} :
    method ∈ n.implMethods source true ↔ n.HasMethod source method := by
  unfold Node.implMethods Node.HasMethod
  cases n.child? "body" with
  | none => simp
  | some body =>
    simp only [List.mem_filterMap, implMethod?_eq_some]
    constructor
    · rintro ⟨f, hf, hk, _, name, hn, rfl⟩
      exact ⟨body, f, name, rfl, hf, hk, hn, rfl⟩
    · rintro ⟨_, f, name, hb, hf, hk, hn, rfl⟩
      obtain rfl := Option.some.inj hb
      exact ⟨f, hf, hk, by simp [Visibility.included], name, hn, rfl⟩

/-- The item is a method of some data type of the outline. -/
def Scope.ListsMethod (file : Scope) (method : Item) : Prop :=
  ∃ scope item kind methods, file.Contains scope ∧ item ∈ scope.items ∧
    item.details = .dataType kind methods ∧ method ∈ methods

namespace FileContext
variable {ctx : FileContext} {root n : Node} {enclosing : List String} {s : Site}

/-- Some scope of the file lists a data type of this name. -/
def Shows (ctx : FileContext) (root : Node) (name : String) : Prop :=
  ∃ enclosing n s kind, ctx.Enters root enclosing n ∧ s ∈ Site.members n ∧ ctx.Keeps s ∧
    Form.ofKind? s.node.kind = some (.dataType kind) ∧ s.node.fieldText? ctx.source "name" = some name

/-- The outline lists the block in its scope, or all its named functions with data types. -/
def RetainsImpl (ctx : FileContext) (root : Node) (enclosing : List String) (n : Node) (s : Site) :
    Prop :=
  ((ctx.assembleInside [] root).Contains (ctx.assembleInside enclosing n) ∧
    ∃ name, s.item ctx.source name (.other .impl) ∈ (ctx.assembleInside enclosing n).items) ∨
    ∀ method, s.node.HasMethod ctx.source method →
      (ctx.assembleInside [] root).ListsMethod method

theorem listsMethod_iff {method : Item} :
    (ctx.assembleInside [] root).ListsMethod method ↔
      ∃ name, ctx.Shows root name ∧ method ∈ ctx.impls.methodsFor name := by
  constructor
  · rintro ⟨scope, item, kind, methods, hc, hi, hd, hm⟩
    obtain ⟨enclosing, n, hn, rfl⟩ := exists_enters_of_contains hc
    obtain ⟨s, hs, hk, hof⟩ := mem_items.mp hi
    cases hof with
    | inlineModule _ _ _ => cases hd
    | @dataType data name form named =>
      obtain ⟨-, rfl⟩ := Details.dataType.inj hd
      exact ⟨name, ⟨enclosing, n, s, data, hn, hs, hk, form, named⟩, hm⟩
    | @plain form _ _ rest _ =>
      cases form with
      | dataType data => exact absurd rfl (rest data)
      | function | trait | other => cases hd
  · rintro ⟨name, ⟨enclosing, n, s, data, hn, hs, hk, form, named⟩, hm⟩
    exact ⟨_, _, data, _, hn.contains, mem_items.mpr ⟨s, hs, hk, .dataType form named⟩, rfl, hm⟩

theorem ItemOf.kind_of_impl {item : Item} (h : ctx.ItemOf enclosing s item)
    (hd : item.details = .other .impl) : s.node.kind = "impl_item" := by
  cases h with
  | inlineModule _ _ _ => cases hd
  | dataType _ _ => cases hd
  | @plain form _ kind _ _ =>
    cases form with
    | other o =>
      obtain rfl : o = .impl := Details.other.inj hd
      exact Form.kind_eq_of_impl kind
    | function | trait | dataType => cases hd

theorem lists_impl_iff (hp : ctx.includePrivate = true) (hs : s ∈ Site.members n)
    (hk : s.node.kind = "impl_item") (ht : (s.node.fieldText? ctx.source "type").isSome) :
    (∃ name, s.item ctx.source name (.other .impl) ∈ (ctx.assembleInside enclosing n).items) ↔
      ctx.impls.isAttached s.node = false := by
  constructor
  · rintro ⟨name, hi⟩
    obtain ⟨s', _, hk', hof⟩ := mem_items.mp hi
    -- another member may show the same item, but then it has the same range
    have hspan : s.node.span = s'.node.span := hof.fields.2.2.2
    have hrange := ctx.impls.isAttached_eq_of_range (congrArg Span.start hspan)
      (congrArg Span.stop hspan)
    rw [hrange]
    simpa [hof.kind_of_impl rfl] using hk'.loose
  · intro ha
    have keeps : ctx.Keeps s := {
      kind := .inr (by simp [hk, formKinds])
      named := by simpa [hk, nameRole] using ht
      included := by simp [hp, Visibility.included]
      loose := by simp [ha] }
    have hf : Form.ofKind? s.node.kind = some (.other .impl) := by rw [hk]; rfl
    obtain ⟨name, hname⟩ := Option.isSome_iff_exists.mp
      ((Form.isSome_implName? ctx.source s.node).trans ht)
    exact ⟨name, mem_items.mpr ⟨s, hs, keeps, .plain hf (by simp) hname⟩⟩

/-- Listed data types take over the method from some block that mentions them. -/
def TakesOver (ctx : FileContext) (root : Node) (method : Item) : Prop :=
  ∃ name, ctx.Shows root name ∧
    ∃ block ∈ ctx.impls.blocks, ImplIndex.mentions block name ∧ method ∈ block.methods

/-- An attached block is retained exactly if all its functions are taken over. -/
theorem retainsImpl_iff_takesOver (hp : ctx.includePrivate = true)
    (hn : ctx.Enters root enclosing n) (hs : s ∈ Site.members n) (hk : s.node.kind = "impl_item")
    (ht : (s.node.fieldText? ctx.source "type").isSome) :
    ctx.RetainsImpl root enclosing n s ↔
      (ctx.impls.isAttached s.node = true →
        ∀ method, s.node.HasMethod ctx.source method → ctx.TakesOver root method) := by
  have htakes (method : Item) :
      (ctx.assembleInside [] root).ListsMethod method ↔ ctx.TakesOver root method :=
    listsMethod_iff.trans
      (exists_congr fun _ => and_congr_right fun _ => ImplIndex.mem_methodsFor)
  unfold RetainsImpl
  rw [lists_impl_iff hp hs hk ht]
  simp only [htakes, hn.contains, true_and]
  cases ctx.impls.isAttached s.node <;> simp

end FileContext

section Sole
variable {source : Utf8.Bytes} {root n : Node} {enclosing : List String} {s : Site}
  {typeText : String}

/-- Blocks with the byte range of the node or with one of its functions have its type text: where
blocks do not share bytes, only its own block does. -/
def ImplIndex.IsSole (index : ImplIndex) (source : Utf8.Bytes) (n : Node) (typeText : String) :
    Prop :=
  ∀ block ∈ index.blocks,
    (block.start = n.start ∧ block.stop = n.stop ∨
      ∃ method ∈ block.methods, n.HasMethod source method) → block.typeText = typeText

private theorem own_block_mem (hr : n ∈ root.reach) (hk : n.kind = "impl_item")
    (ht : n.fieldText? source "type" = some typeText) :
    ⟨typeText, n.start, n.stop, n.implMethods source true⟩ ∈
      (ImplIndex.build source true root).blocks :=
  ImplIndex.mem_blocks_build.mpr ⟨n, hr, by simp [Node.implBlock?, hk, ht]⟩

/-- A sole block is attached exactly if its type text mentions a data type of the file. -/
theorem isAttached_iff_of_isSole (hr : n ∈ root.reach) (hk : n.kind = "impl_item")
    (ht : n.fieldText? source "type" = some typeText)
    (sole : (ImplIndex.build source true root).IsSole source n typeText) :
    (ImplIndex.build source true root).isAttached n = true ↔
      ∃ name ∈ (ImplIndex.build source true root).dataNames,
        occursIn name.toList typeText.toList := by
  simp only [ImplIndex.isAttached, List.any_eq_true, Bool.and_eq_true, beq_iff_eq]
  constructor
  · rintro ⟨block, hb, hrange, name, hname, hmentions⟩
    rw [ImplIndex.mentions, sole block hb (.inl hrange)] at hmentions
    exact ⟨name, hname, hmentions⟩
  · rintro ⟨name, hname, hoccurs⟩
    exact ⟨_, own_block_mem hr hk ht, ⟨rfl, rfl⟩, name, hname, hoccurs⟩

/-- The functions of a sole block go where its type text points. -/
theorem takesOver_iff_of_isSole {method : Item} (hr : n ∈ root.reach) (hk : n.kind = "impl_item")
    (ht : n.fieldText? source "type" = some typeText)
    (sole : (ImplIndex.build source true root).IsSole source n typeText)
    (hm : n.HasMethod source method) :
    (FileContext.ofFile source true root).TakesOver root method ↔
      ∃ name, (FileContext.ofFile source true root).Shows root name ∧
        occursIn name.toList typeText.toList := by
  refine exists_congr fun name => and_congr_right fun _ => ⟨?_, fun hoccurs => ?_⟩
  · rintro ⟨block, hb, hmentions, hmem⟩
    rwa [ImplIndex.mentions, sole block hb (.inr ⟨method, hmem, hm⟩)] at hmentions
  · exact ⟨_, own_block_mem hr hk ht, hoccurs, Node.mem_implMethods.mpr hm⟩

/-- When the full outline retains an impl block: exactly if the block is not attached or listed data
types take over all its functions. For a block that is alone with its bytes this means: if its type
text mentions any data type of the file and it has a function, it mentions a listed one. -/
theorem impl_block_retained_iff (hn : (FileContext.ofFile source true root).Enters root enclosing n)
    (hs : s ∈ Site.members n) (hk : s.node.kind = "impl_item")
    (ht : s.node.fieldText? source "type" = some typeText) :
    ((FileContext.ofFile source true root).RetainsImpl root enclosing n s ↔
      ((ImplIndex.build source true root).isAttached s.node = true →
        ∀ method, s.node.HasMethod source method →
          (FileContext.ofFile source true root).TakesOver root method)) ∧
    (s.node ∈ root.reach → (ImplIndex.build source true root).IsSole source s.node typeText →
      ((FileContext.ofFile source true root).RetainsImpl root enclosing n s ↔
        ((∃ name ∈ (ImplIndex.build source true root).dataNames,
            occursIn name.toList typeText.toList) →
          (∃ method, s.node.HasMethod source method) →
          ∃ name, (FileContext.ofFile source true root).Shows root name ∧
            occursIn name.toList typeText.toList))) := by
  have hretains := FileContext.retainsImpl_iff_takesOver rfl hn hs hk
    (by rw [FileContext.source_ofFile, ht]; rfl)
  refine ⟨hretains, fun hr sole => hretains.trans ?_⟩
  rw [FileContext.impls_ofFile, isAttached_iff_of_isSole hr hk ht sole]
  refine imp_congr_right fun _ => ?_
  constructor
  · rintro h ⟨method, hm⟩
    exact (takesOver_iff_of_isSole hr hk ht sole hm).mp (h method hm)
  · intro h method hm
    exact (takesOver_iff_of_isSole hr hk ht sole hm).mpr (h ⟨method, hm⟩)

end Sole

namespace HiddenType
open FileContext

/-- A file whose only data type is declared inside a function body, with a block for it outside:
`fn f() { pub struct Loc; }` and on the next line `impl Loc { pub fn l() {} }`. -/
def source : Utf8.Bytes :=
  Utf8.encode
    "fn f() \x7b pub struct Loc; \x7d\nimpl Loc \x7b pub fn l() \x7b\x7d \x7d\n"

private abbrev node := Node.ofRange source
private abbrev token := Node.token source

def dataType : Node := node "struct_item" none 9 24 [
  node "visibility_modifier" none 9 12 [token "pub" 9 12], token "struct" 13 19,
  node "type_identifier" (some "name") 20 23 [], token ";" 23 24]

def function : Node := node "function_item" none 0 26 [
  token "fn" 0 2, node "identifier" (some "name") 3 4 [],
  node "parameters" (some "parameters") 4 6 [token "(" 4 5, token ")" 5 6],
  node "block" (some "body") 7 26 [token "\x7b" 7 8, dataType, token "\x7d" 25 26]]

def method : Node := node "function_item" none 38 51 [
  node "visibility_modifier" none 38 41 [token "pub" 38 41], token "fn" 42 44,
  node "identifier" (some "name") 45 46 [],
  node "parameters" (some "parameters") 46 48 [token "(" 46 47, token ")" 47 48],
  node "block" (some "body") 49 51 [token "\x7b" 49 50, token "\x7d" 50 51]]

def methods : Node :=
  node "declaration_list" (some "body") 36 53 [token "\x7b" 36 37, method, token "\x7d" 52 53]

def block : Node := node "impl_item" none 27 53 [
  token "impl" 27 31, node "type_identifier" (some "type") 32 35 [], methods]

def root : Node := node "source_file" none 0 54 [function, block]

def site : Site := ⟨block, false, [function]⟩

theorem members_root : Site.members root = [⟨function, false, []⟩, site] := rfl

theorem site_mem : site ∈ Site.members root := by simp [members_root]

theorem type_eq : block.fieldText? source "type" = some "Loc" := by decide

theorem block_reached : block ∈ root.reach := by
  have hreach : root.reach =
      root :: (function.reach ++ (block :: Node.reachAll block.children ++ [])) := rfl
  simp [hreach]

private theorem enters_root {enclosing : List String} {n : Node}
    (h : (ofFile source true root).Enters root enclosing n) : n = root := by
  induction h with
  | root => rfl
  | body _ mem _ kind _ _ ih =>
    subst ih
    simp only [members_root, List.mem_cons, List.not_mem_nil, or_false] at mem
    rcases mem with rfl | rfl <;> exact absurd kind (by decide)

private theorem shows_nothing (name : String) : ¬ (ofFile source true root).Shows root name := by
  rintro ⟨enclosing, n, s, kind, hn, hs, _, hf, _⟩
  obtain rfl := enters_root hn
  simp only [members_root, List.mem_cons, List.not_mem_nil, or_false] at hs
  rcases hs with rfl | rfl <;> cases hf

private theorem has_method : ∃ item, block.HasMethod source item :=
  ⟨_, methods, ⟨method, false, [token "\x7b" 36 37]⟩, "l", rfl, by
    simp [Site.namedChildren, Site.children, Site.ofSiblings, methods, Node.ofRange, Node.token,
      method, Node.isError], rfl, by decide, rfl⟩

/-- A block of the crate root goes missing: the type it is attached to is inside a function body,
so the outline lists neither the block nor a data type with its function. -/
theorem block_missing :
    (ofFile source true root).Enters root [] root ∧ site ∈ Site.members root ∧
      site.node.kind = "impl_item" ∧ site.node.fieldText? source "type" = some "Loc" ∧
      ¬ (ofFile source true root).RetainsImpl root [] root site := by
  refine ⟨.root, site_mem, rfl, type_eq, fun h => ?_⟩
  obtain ⟨item, hitem⟩ := has_method
  have hattached : (ImplIndex.build source true root).isAttached block = true := by
    decide +kernel
  rw [retainsImpl_iff_takesOver rfl .root site_mem rfl (by decide)] at h
  obtain ⟨name, hshows, _⟩ := h hattached item hitem
  exact shows_nothing name hshows

/-- The block is alone with its bytes, so the plain condition decides its case. -/
theorem block_retained_iff :
    block ∈ root.reach ∧ (ImplIndex.build source true root).IsSole source block "Loc" ∧
      ((ofFile source true root).RetainsImpl root [] root site ↔
        ((∃ name ∈ (ImplIndex.build source true root).dataNames,
            occursIn name.toList "Loc".toList) →
          (∃ item, block.HasMethod source item) →
          ∃ name, (ofFile source true root).Shows root name ∧
            occursIn name.toList "Loc".toList)) := by
  have sole : (ImplIndex.build source true root).IsSole source block "Loc" := by
    intro b hb _
    have hblocks : (ImplIndex.build source true root).blocks =
        [⟨"Loc", 27, 53, block.implMethods source true⟩] := by
      rw [ImplIndex.build_eq]
      rfl
    rw [hblocks, List.mem_singleton] at hb
    rw [hb]
  exact ⟨block_reached, sole,
    (impl_block_retained_iff .root site_mem rfl type_eq).2 block_reached sole⟩

end HiddenType
end RustOutline
