import RustOutline.Proofs.ConcreteTree
import RustOutline.Proofs.DeclarationAccount

/-! The index of impl blocks is exact. A file is traversed by paths of named children, in document
order; the index holds one block for each impl node with a type text on the way and one name for each
named data type. Where impl nodes have byte ranges of their own, a node is attached exactly if its
type text mentions one of these names. -/
namespace RustOutline

namespace Node

/-- A path of named children, given by their places among all children. -/
inductive Leads : Node → List Nat → Node → Prop
  | here (n : Node) : Leads n [] n
  | into {n c d : Node} {i : Nat} {path : List Nat} (child : n.children[i]? = some c)
      (named : c.named = true) (rest : Leads c path d) : Leads n (i :: path) d

/-- All that a root leads to, with the paths. Paths are compared place by place and a path comes
before its continuations, so parents precede their children and siblings keep their order. -/
structure Traversal (root : Node) (trail : List (List Nat × Node)) : Prop where
  ordered : trail.Pairwise fun a b => a.1 < b.1
  complete : ∀ path n, (path, n) ∈ trail ↔ root.Leads path n

mutual
/-- What a node reaches through named children, with the paths. -/
def located : Node → List (List Nat × Node)
  | ⟨k, f, n, m, e, a, b, p, q, children⟩ =>
    ([], ⟨k, f, n, m, e, a, b, p, q, children⟩) :: locatedFrom 0 children

def locatedFrom (i : Nat) : List Node → List (List Nat × Node)
  | [] => []
  | c :: cs =>
    (if c.named then c.located.map fun t => (i :: t.1, t.2) else []) ++ locatedFrom (i + 1) cs
end

theorem located_eq (n : Node) : n.located = ([], n) :: locatedFrom 0 n.children := by
  cases n
  rw [located]

theorem leads_nil {n d : Node} : n.Leads [] d ↔ d = n := by
  constructor
  · rintro ⟨⟩
    rfl
  · rintro rfl
    exact .here _

theorem leads_cons {n d : Node} {i : Nat} {path : List Nat} :
    n.Leads (i :: path) d ↔ ∃ c, n.children[i]? = some c ∧ c.named = true ∧ c.Leads path d := by
  constructor
  · rintro (_ | ⟨child, named, rest⟩)
    exact ⟨_, child, named, rest⟩
  · rintro ⟨c, child, named, rest⟩
    exact .into child named rest

theorem mem_locatedFrom {cs : List Node} {i : Nat} {path : List Nat} {d : Node} :
    (path, d) ∈ locatedFrom i cs ↔ ∃ j c rest, path = (i + j) :: rest ∧ cs[j]? = some c ∧
      c.named = true ∧ (rest, d) ∈ c.located := by
  induction cs generalizing i with
  | nil => simp [locatedFrom]
  | cons c cs ih =>
    rw [locatedFrom, List.mem_append, ih]
    constructor
    · rintro (h | ⟨j, c', rest, rfl, hc, hnamed, hmem⟩)
      · split at h
        · next hnamed =>
          obtain ⟨⟨rest, d'⟩, hmem, heq⟩ := List.mem_map.mp h
          obtain ⟨rfl, rfl⟩ := Prod.mk.inj heq
          exact ⟨0, c, rest, rfl, rfl, hnamed, hmem⟩
        · cases h
      · exact ⟨j + 1, c', rest, by rw [Nat.add_right_comm, Nat.add_assoc], hc, hnamed, hmem⟩
    · rintro ⟨j, c', rest, rfl, hc, hnamed, hmem⟩
      cases j with
      | zero =>
        obtain rfl := Option.some.inj hc
        rw [if_pos hnamed]
        exact .inl (List.mem_map.mpr ⟨_, hmem, rfl⟩)
      | succ j => exact .inr ⟨j, c', rest, by rw [Nat.add_right_comm, Nat.add_assoc], hc, hnamed, hmem⟩

theorem mem_located {n d : Node} {path : List Nat} :
    (path, d) ∈ n.located ↔ n.Leads path d := by
  induction path generalizing n with
  | nil =>
    rw [located_eq, List.mem_cons, mem_locatedFrom, leads_nil]
    simp
  | cons i path ih =>
    rw [located_eq, List.mem_cons, mem_locatedFrom, leads_cons]
    constructor
    · rintro (h | ⟨j, c, rest, hpath, hc, hnamed, hmem⟩)
      · cases h
      · obtain ⟨rfl, rfl⟩ := List.cons.inj hpath
        exact ⟨c, by simpa using hc, hnamed, ih.mp hmem⟩
    · rintro ⟨c, hc, hnamed, hleads⟩
      exact .inr ⟨i, c, path, by simp, hc, hnamed, ih.mpr hleads⟩

theorem locatedFrom_ordered (i : Nat) {cs : List Node}
    (h : ∀ c ∈ cs, c.located.Pairwise fun a b => a.1 < b.1) :
    (locatedFrom i cs).Pairwise fun a b => a.1 < b.1 := by
  induction cs generalizing i with
  | nil => exact .nil
  | cons c cs ih =>
    obtain ⟨hc, hrest⟩ := List.forall_mem_cons.mp h
    rw [locatedFrom]
    refine List.pairwise_append.mpr ⟨?_, ih (i + 1) hrest, ?_⟩
    · split
      · refine List.pairwise_map.mpr (hc.imp fun hlt => ?_)
        exact List.cons_lt_cons_iff.mpr (.inr ⟨rfl, hlt⟩)
      · exact .nil
    · -- the later siblings have higher places
      rintro a ha ⟨path, d⟩ hb
      obtain ⟨j, _, rest, rfl, -⟩ := mem_locatedFrom.mp hb
      split at ha
      · obtain ⟨t, -, rfl⟩ := List.mem_map.mp ha
        exact List.cons_lt_cons_iff.mpr (.inl (by omega))
      · cases ha

theorem located_ordered (n : Node) : n.located.Pairwise fun a b => a.1 < b.1 := by
  induction n using treeInduction with
  | step n ih =>
    rw [located_eq]
    refine List.pairwise_cons.mpr ⟨?_, locatedFrom_ordered 0 ih⟩
    rintro ⟨path, d⟩ h
    obtain ⟨j, _, rest, rfl, -⟩ := mem_locatedFrom.mp h
    exact List.nil_lt_cons _ _

theorem traversal_located (n : Node) : n.Traversal n.located :=
  ⟨n.located_ordered, fun _ _ => mem_located⟩

theorem map_snd_locatedFrom (i : Nat) {cs : List Node}
    (h : ∀ c ∈ cs, c.located.map Prod.snd = c.reach) :
    (locatedFrom i cs).map Prod.snd = reachAll cs := by
  induction cs generalizing i with
  | nil => rw [locatedFrom, reachAll, List.map_nil]
  | cons c cs ih =>
    obtain ⟨hc, hrest⟩ := List.forall_mem_cons.mp h
    rw [locatedFrom, reachAll, List.map_append, ih (i + 1) hrest]
    split
    · rw [List.map_map, ← hc]
      rfl
    · rfl

theorem map_snd_located (n : Node) : n.located.map Prod.snd = n.reach := by
  induction n using treeInduction with
  | step n ih =>
    rw [located_eq, List.map_cons, map_snd_locatedFrom 0 ih]
    cases n
    rw [reach]

theorem mem_reach {root n : Node} : n ∈ root.reach ↔ ∃ path, root.Leads path n := by
  simp only [← map_snd_located, List.mem_map, Prod.exists, exists_eq_right, mem_located]

end Node

/-- No two impl nodes that the root leads to share their byte range. -/
def Node.ImplsApart (root : Node) : Prop :=
  ∀ path path' m n, root.Leads path m → root.Leads path' n → m.kind = "impl_item" →
    n.kind = "impl_item" → m.start = n.start → m.stop = n.stop → m = n

/-- The function has a name, and the inclusion policy keeps it. -/
def Site.IsKeptFunction (source : Utf8.Bytes) (includePrivate : Bool) (f : Site) : Prop :=
  f.node.kind = "function_item" ∧
    (Visibility.ofNode source f.node).included includePrivate = true ∧
    (f.node.fieldText? source "name").isSome

/-- The method is the item of a function. -/
def Site.IsMethod (source : Utf8.Bytes) (f : Site) (method : Item) : Prop :=
  ∃ name, f.node.fieldText? source "name" = some name ∧
    method = f.item source name (.function (f.node.signature source))

/-- The block of an impl node: its type text and its range, and the functions that are kept from its
body, in order. Without a body there are none. -/
structure ImplBlock.IsOf (source : Utf8.Bytes) (includePrivate : Bool) (n : Node)
    (block : ImplBlock) : Prop where
  typeText : n.fieldText? source "type" = some block.typeText
  start : block.start = n.start
  stop : block.stop = n.stop
  methods : ∃ places, Drawn ((n.child? "body").elim [] Site.namedChildren)
    (Site.IsKeptFunction source includePrivate) (Site.IsMethod source) places block.methods

/-- An impl node with a type text. -/
def Node.IsTypedImpl (source : Utf8.Bytes) (n : Node) : Prop :=
  n.kind = "impl_item" ∧ (n.fieldText? source "type").isSome

/-- A structure, an enumeration or a union with a name. -/
def Node.IsNamedData (source : Utf8.Bytes) (n : Node) : Prop :=
  n.kind ∈ ["struct_item", "enum_item", "union_item"] ∧ (n.fieldText? source "name").isSome

namespace ImplIndex
variable {index : ImplIndex} {name : String} {block : ImplBlock}

def blocksFor (index : ImplIndex) (name : String) : List ImplBlock :=
  index.blocks.filter (mentions · name)

theorem methodsFor_eq (index : ImplIndex) (name : String) :
    index.methodsFor name = (index.blocksFor name).flatMap ImplBlock.methods := rfl

theorem mentions_iff : mentions block name = true ↔ name.toList <:+: block.typeText.toList :=
  Text.occursIn_iff

theorem mem_blocksFor : block ∈ index.blocksFor name ↔
    block ∈ index.blocks ∧ name.toList <:+: block.typeText.toList := by
  rw [blocksFor, List.mem_filter, mentions_iff]

theorem isAttached_iff {n : Node} : index.isAttached n = true ↔
    ∃ block ∈ index.blocks, block.start = n.start ∧ block.stop = n.stop ∧
      ∃ name ∈ index.dataNames, name.toList <:+: block.typeText.toList := by
  simp only [isAttached, List.any_eq_true, Bool.and_eq_true, beq_iff_eq, mentions_iff, and_assoc]

end ImplIndex

section Index
variable {source : Utf8.Bytes} {includePrivate : Bool} {root n : Node}

theorem isDataKind_iff (kind : String) :
    isDataKind kind = true ↔ kind ∈ ["struct_item", "enum_item", "union_item"] := by
  unfold isDataKind Form.ofKind?
  constructor
  · intro h
    split at h
    · next hform => split at hform <;> simp_all
    · cases h
  · simp only [List.mem_cons, List.not_mem_nil, or_false]
    rintro (rfl | rfl | rfl) <;> rfl

theorem implMethod?_cases (f : Site) :
    (¬ f.IsKeptFunction source includePrivate ∧ implMethod? source includePrivate f = none) ∨
      (f.IsKeptFunction source includePrivate ∧
        ∃ method, f.IsMethod source method ∧ implMethod? source includePrivate f = some method) := by
  cases h : implMethod? source includePrivate f with
  | none =>
    refine .inl ⟨fun ⟨hk, hincluded, hnamed⟩ => ?_, rfl⟩
    obtain ⟨name, hname⟩ := Option.isSome_iff_exists.mp hnamed
    cases h.symm.trans (implMethod?_eq_some.mpr ⟨hk, hincluded, name, hname, rfl⟩)
  | some method =>
    obtain ⟨hk, hincluded, name, hname, hmethod⟩ := implMethod?_eq_some.mp h
    exact .inr ⟨⟨hk, hincluded, Option.isSome_of_eq_some hname⟩, method, ⟨name, hname, hmethod⟩, rfl⟩

theorem implMethods_drawn (n : Node) :
    ∃ places, Drawn ((n.child? "body").elim [] Site.namedChildren)
      (Site.IsKeptFunction source includePrivate) (Site.IsMethod source) places
      (n.implMethods source includePrivate) := by
  have hmethods : n.implMethods source includePrivate =
      ((n.child? "body").elim [] Site.namedChildren).filterMap
        (implMethod? source includePrivate) := by
    unfold Node.implMethods
    cases n.child? "body" <;> rfl
  rw [hmethods]
  exact Drawn.ofFilterMap _ _ implMethod?_cases

theorem implBlock?_cases (source : Utf8.Bytes) (includePrivate : Bool) (n : Node) :
    (¬ n.IsTypedImpl source ∧ n.implBlock? source includePrivate = none) ∨
      (n.IsTypedImpl source ∧ ∃ block : ImplBlock, block.IsOf source includePrivate n ∧
        n.implBlock? source includePrivate = some block) := by
  unfold Node.implBlock? Node.IsTypedImpl
  by_cases hk : n.kind = "impl_item"
  · cases ht : n.fieldText? source "type" with
    | none => simp
    | some typeText =>
      let block : ImplBlock :=
        { typeText, start := n.start, stop := n.stop, methods := n.implMethods source includePrivate }
      have hof : block.IsOf source includePrivate n := ⟨ht, rfl, rfl, implMethods_drawn n⟩
      exact .inr ⟨⟨hk, rfl⟩, block, hof, by simp [hk, block]⟩
  · simp [hk]

theorem dataName?_cases (n : Node) :
    (¬ n.IsNamedData source ∧ n.dataName? source = none) ∨
      (n.IsNamedData source ∧ ∃ name, n.fieldText? source "name" = some name ∧
        n.dataName? source = some name) := by
  unfold Node.dataName? Node.IsNamedData
  rw [← isDataKind_iff]
  cases isDataKind n.kind with
  | false => simp
  | true => cases n.fieldText? source "name" <;> simp

/-- What is collected from the nodes that a root reaches comes from its traversal. -/
theorem filterMap_reach_eq {β : Type} (f : Node → Option β) (root : Node) :
    root.reach.filterMap f = root.located.filterMap fun t => f t.2 := by
  rw [← Node.map_snd_located, List.filterMap_map]
  rfl

theorem blocks_drawn (source : Utf8.Bytes) (includePrivate : Bool) (root : Node) :
    ∃ places, Drawn root.located (fun t => t.2.IsTypedImpl source)
      (fun t => ImplBlock.IsOf source includePrivate t.2) places
      (ImplIndex.build source includePrivate root).blocks := by
  have hblocks : (ImplIndex.build source includePrivate root).blocks =
      root.located.filterMap fun t => t.2.implBlock? source includePrivate := by
    simp only [ImplIndex.build_eq, filterMap_reach_eq]
  rw [hblocks]
  exact Drawn.ofFilterMap _ _ fun t => implBlock?_cases source includePrivate t.2

theorem dataNames_drawn (source : Utf8.Bytes) (includePrivate : Bool) (root : Node) :
    ∃ places, Drawn root.located (fun t => t.2.IsNamedData source)
      (fun t name => t.2.fieldText? source "name" = some name) places
      (ImplIndex.build source includePrivate root).dataNames := by
  have hnames : (ImplIndex.build source includePrivate root).dataNames =
      root.located.filterMap fun t => t.2.dataName? source := by
    simp only [ImplIndex.build_eq, filterMap_reach_eq]
  rw [hnames]
  exact Drawn.ofFilterMap _ _ fun t => dataName?_cases t.2

theorem exists_leads_of_mem_blocks {block : ImplBlock}
    (h : block ∈ (ImplIndex.build source includePrivate root).blocks) :
    ∃ path n, root.Leads path n ∧ n.kind = "impl_item" ∧ block.IsOf source includePrivate n := by
  obtain ⟨n, hn, hblock⟩ := ImplIndex.mem_blocks_build.mp h
  obtain ⟨path, hleads⟩ := Node.mem_reach.mp hn
  obtain ⟨_, hnone⟩ | ⟨⟨hk, _⟩, block', hof, hsome⟩ :=
    implBlock?_cases source includePrivate n
  · cases hnone.symm.trans hblock
  · obtain rfl := Option.some.inj (hsome.symm.trans hblock)
    exact ⟨path, n, hleads, hk, hof⟩

theorem exists_mem_blocks_of_leads (includePrivate : Bool) {path : List Nat}
    (h : root.Leads path n) (hn : n.IsTypedImpl source) :
    ∃ block ∈ (ImplIndex.build source includePrivate root).blocks,
      block.IsOf source includePrivate n := by
  obtain ⟨hnot, _⟩ | ⟨_, block, hof, hsome⟩ :=
    implBlock?_cases source includePrivate n
  · exact absurd hn hnot
  · exact ⟨block, ImplIndex.mem_blocks_build.mpr ⟨n, Node.mem_reach.mpr ⟨path, h⟩, hsome⟩, hof⟩

/-- Where ranges tell impl nodes apart, attachment by range is attachment by type text. -/
theorem isAttached_iff_of_implsApart (source : Utf8.Bytes) (includePrivate : Bool)
    {path : List Nat} (apart : root.ImplsApart) (h : root.Leads path n)
    (hk : n.kind = "impl_item") :
    (ImplIndex.build source includePrivate root).isAttached n = true ↔
      ∃ typeText, n.fieldText? source "type" = some typeText ∧
        ∃ name ∈ (ImplIndex.build source includePrivate root).dataNames,
          name.toList <:+: typeText.toList := by
  rw [ImplIndex.isAttached_iff]
  constructor
  · rintro ⟨block, hb, hstart, hstop, hnames⟩
    obtain ⟨path', m, hleads, hm, hof⟩ := exists_leads_of_mem_blocks hb
    obtain rfl : m = n := apart path' path m n hleads h hm hk (hof.start.symm.trans hstart)
      (hof.stop.symm.trans hstop)
    exact ⟨block.typeText, hof.typeText, hnames⟩
  · rintro ⟨typeText, ht, hnames⟩
    obtain ⟨block, hb, hof⟩ := exists_mem_blocks_of_leads includePrivate h ⟨hk, by rw [ht]; rfl⟩
    obtain rfl := Option.some.inj (ht.symm.trans hof.typeText)
    exact ⟨block, hb, hof.start, hof.stop, hnames⟩

/-- A type text mentions a name exactly if the block is among those that the name gets. -/
theorem exists_mem_blocksFor_iff {path : List Nat} {name : String} (h : root.Leads path n)
    (hk : n.kind = "impl_item") :
    (∃ block ∈ (ImplIndex.build source includePrivate root).blocksFor name,
        block.IsOf source includePrivate n) ↔
      ∃ typeText, n.fieldText? source "type" = some typeText ∧
        name.toList <:+: typeText.toList := by
  constructor
  · rintro ⟨block, hb, hof⟩
    exact ⟨block.typeText, hof.typeText, (ImplIndex.mem_blocksFor.mp hb).2⟩
  · rintro ⟨typeText, ht, hoccurs⟩
    obtain ⟨block, hb, hof⟩ := exists_mem_blocks_of_leads includePrivate h ⟨hk, by rw [ht]; rfl⟩
    obtain rfl := Option.some.inj (ht.symm.trans hof.typeText)
    exact ⟨block, ImplIndex.mem_blocksFor.mpr ⟨hb, hoccurs⟩, hof⟩

/-- The index of a file is exact: its blocks and names are drawn from the traversal of the file in
document order, each from its own node. Where ranges tell impl nodes apart, a node is attached
exactly if its type text mentions some name of the index, which is to say that its block is among
those whose methods go to that name. -/
theorem impl_index_exact (source : Utf8.Bytes) (includePrivate : Bool) (root : Node) :
    let index := ImplIndex.build source includePrivate root
    ∃ trail, root.Traversal trail ∧
      (∃ places, Drawn trail (fun t => t.2.IsTypedImpl source)
        (fun t => ImplBlock.IsOf source includePrivate t.2) places index.blocks) ∧
      (∃ places, Drawn trail (fun t => t.2.IsNamedData source)
        (fun t name => t.2.fieldText? source "name" = some name) places index.dataNames) ∧
      (∀ name, index.methodsFor name = (index.blocksFor name).flatMap ImplBlock.methods) ∧
      (root.ImplsApart → ∀ path n, root.Leads path n → n.kind = "impl_item" →
        (index.isAttached n = true ↔
          ∃ typeText, n.fieldText? source "type" = some typeText ∧
            ∃ name ∈ index.dataNames, name.toList <:+: typeText.toList) ∧
        (index.isAttached n = true ↔
          ∃ name ∈ index.dataNames, ∃ block ∈ index.blocksFor name,
            block.IsOf source includePrivate n)) := by
  intro index
  refine ⟨root.located, root.traversal_located, blocks_drawn source includePrivate root,
    dataNames_drawn source includePrivate root, index.methodsFor_eq, fun apart path n h hk => ?_⟩
  have hattached := isAttached_iff_of_implsApart source includePrivate apart h hk
  refine ⟨hattached, hattached.trans ?_⟩
  simp only [index, exists_mem_blocksFor_iff h hk]
  constructor
  · rintro ⟨typeText, ht, name, hname, hoccurs⟩
    exact ⟨name, hname, typeText, ht, hoccurs⟩
  · rintro ⟨name, hname, typeText, ht, hoccurs⟩
    exact ⟨typeText, ht, name, hname, hoccurs⟩

end Index

namespace RelatedNames

/-- Two data types, of which one has a name that begins with the other's, and blocks for both and for
a type of another file. -/
def source : Utf8.Bytes :=
  Utf8.encode ("struct Sam;\nstruct Sample;\nimpl Sample \x7b fn a() \x7b\x7d \x7d\n" ++
    "impl Sam \x7b fn b() \x7b\x7d \x7d\nimpl Other \x7b fn c() \x7b\x7d \x7d\n")

private abbrev node := Node.ofRange source
private abbrev token := Node.token source

def dataType (start stop : Nat) : Node := node "struct_item" none start stop [
  token "struct" start (start + 6), node "type_identifier" (some "name") (start + 7) (stop - 1) [],
  token ";" (stop - 1) stop]

def method (start : Nat) : Node := node "function_item" none start (start + 9) [
  token "fn" start (start + 2), node "identifier" (some "name") (start + 3) (start + 4) [],
  node "parameters" (some "parameters") (start + 4) (start + 6) [
    token "(" (start + 4) (start + 5), token ")" (start + 5) (start + 6)],
  node "block" (some "body") (start + 7) (start + 9) [
    token "\x7b" (start + 7) (start + 8), token "\x7d" (start + 8) (start + 9)]]

def block (start typeStop : Nat) : Node := node "impl_item" none start (typeStop + 14) [
  token "impl" start (start + 4), node "type_identifier" (some "type") (start + 5) typeStop [],
  node "declaration_list" (some "body") (typeStop + 1) (typeStop + 14) [
    token "\x7b" (typeStop + 1) (typeStop + 2), method (typeStop + 3),
    token "\x7d" (typeStop + 13) (typeStop + 14)]]

def root : Node := node "source_file" none 0 101 [
  dataType 0 11, dataType 12 26, block 27 38, block 53 61, block 76 86]

theorem impls_eq : root.reach.filter (fun n => n.kind == "impl_item") =
    [block 27 38, block 53 61, block 76 86] := rfl

theorem implsApart : root.ImplsApart := by
  have hmem (path : List Nat) (n : Node) (h : root.Leads path n) (hk : n.kind = "impl_item") :
      n = block 27 38 ∨ n = block 53 61 ∨ n = block 76 86 := by
    have hn : n ∈ root.reach.filter fun n => n.kind == "impl_item" :=
      List.mem_filter.mpr ⟨Node.mem_reach.mpr ⟨path, h⟩, by simpa using hk⟩
    simpa [impls_eq] using hn
  intro path path' m n hm hn hkm hkn hstart _
  rcases hmem path m hm hkm with rfl | rfl | rfl <;>
    rcases hmem path' n hn hkn with rfl | rfl | rfl <;>
      first
      | rfl
      | cases hstart

theorem type_eq : (block 27 38).fieldText? source "type" = some "Sample" ∧
    (block 76 86).fieldText? source "type" = some "Other" := by decide +kernel

theorem dataNames_eq : (ImplIndex.build source false root).dataNames = ["Sam", "Sample"] := by
  decide +kernel

/-- Ranges tell the three blocks apart; the first one is attached, the last one is not. -/
theorem attached_by_type : root.ImplsApart ∧ root.Leads [2] (block 27 38) ∧
    root.Leads [4] (block 76 86) ∧
    (ImplIndex.build source false root).isAttached (block 27 38) = true ∧
    (ImplIndex.build source false root).isAttached (block 76 86) = false := by
  have first : root.Leads [2] (block 27 38) := .into rfl rfl (.here _)
  have last : root.Leads [4] (block 76 86) := .into rfl rfl (.here _)
  obtain ⟨_, _, _, _, _, hattached⟩ := impl_index_exact source false root
  refine ⟨implsApart, first, last, ?_, ?_⟩
  · refine (hattached implsApart _ _ first rfl).1.mpr ⟨"Sample", type_eq.1, "Sam", ?_, by decide⟩
    rw [dataNames_eq]
    decide
  · rw [← Bool.not_eq_true, (hattached implsApart _ _ last rfl).1, dataNames_eq]
    rintro ⟨typeText, ht, name, hname, hoccurs⟩
    obtain rfl := Option.some.inj (ht.symm.trans type_eq.2)
    revert name
    decide

end RelatedNames
end RustOutline
