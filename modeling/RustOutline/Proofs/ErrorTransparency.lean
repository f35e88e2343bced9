import RustOutline.Proofs.ConcreteTree
import RustOutline.Proofs.MemberContribution

/-! Error regions are transparent: where one gives way to its named children, the outline stays as it
is but for documentation in that scope. Documentation may change, since inside a region it is read
from the source lines and outside from the siblings. -/
namespace RustOutline

namespace Node
variable (n : Node) (cs : List Node)

def withChildren : Node := { n with children := cs }

@[simp] theorem children_withChildren : (n.withChildren cs).children = cs := rfl
@[simp] theorem kind_withChildren : (n.withChildren cs).kind = n.kind := rfl
@[simp] theorem field_withChildren : (n.withChildren cs).field = n.field := rfl
@[simp] theorem named_withChildren : (n.withChildren cs).named = n.named := rfl
@[simp] theorem isError_withChildren : (n.withChildren cs).isError = n.isError := rfl

end Node

/-- One error region that the scope walk meets gives way to its named children. The trail lists the
modules around it, outermost first; the walk enters regions and the bodies of modules. -/
inductive Dissolves : List Node → List Node → List Node → Prop
  | here (before : List Node) (region : Node) (after : List Node) (named : region.named)
      (error : region.isError) :
      Dissolves [] (before ++ region :: after) (before ++ (region.namedChildren ++ after))
  | inRegion (before : List Node) (region : Node) (after : List Node) {trail inside : List Node}
      (named : region.named) (error : region.isError)
      (step : Dissolves trail region.children inside) :
      Dissolves trail (before ++ region :: after)
        (before ++ region.withChildren inside :: after)
  | inModule (before : List Node) (module : Node) (after head : List Node) (body : Node)
      (tail : List Node) {trail inside : List Node} (named : module.named)
      (kind : module.kind = "mod_item") (children : module.children = head ++ body :: tail)
      (first : ∀ c ∈ head, c.field ≠ some "body") (role : body.field = some "body")
      (list : body.kind = "declaration_list") (step : Dissolves trail body.children inside) :
      Dissolves (module :: trail) (before ++ module :: after)
        (before ++ module.withChildren (head ++ body.withChildren inside :: tail) :: after)

/-- The scope with the same documentation for all its items; nested scopes keep theirs. -/
def Scope.redocument (doc : Option String) (s : Scope) : Scope :=
  ⟨s.items.map fun item => { item with doc := doc }, s.references⟩

/-- Scopes that differ at most in the documentation of the items of one scope, the one to which the
trail of module nodes leads. -/
inductive Scope.AlikeAt (source : Utf8.Bytes) : List Node → Scope → Scope → Prop
  | same (trail : List Node) (s : Scope) : AlikeAt source trail s s
  | here {s t : Scope} (docs : s.redocument none = t.redocument none) : AlikeAt source [] s t
  | inside {trail : List Node} (before after : List Item) (references : List ModuleReference)
      (site : Site) {name : String} {s t : Scope}
      (named : site.node.fieldText? source "name" = some name) (alike : AlikeAt source trail s t) :
      AlikeAt source (site.node :: trail)
        ⟨before ++ site.item source name (.inlineModule s.items s.references) :: after, references⟩
        ⟨before ++ site.item source name (.inlineModule t.items t.references) :: after, references⟩

namespace Scope

theorem redocument_append (doc : Option String) (s t : Scope) :
    (s ++ t).redocument doc = s.redocument doc ++ t.redocument doc := by
  ext1 <;> simp [redocument]

theorem redocument_redocument (doc other : Option String) (s : Scope) :
    (s.redocument other).redocument doc = s.redocument doc := by
  simp [redocument, Function.comp_def]

theorem AlikeAt.append {source : Utf8.Bytes} {trail : List Node} {s t : Scope} (u v : Scope)
    (h : AlikeAt source trail s t) : AlikeAt source trail (u ++ s ++ v) (u ++ t ++ v) := by
  cases h with
  | same => exact .same _ _
  | here docs => exact .here (by simp only [redocument_append, docs])
  | inside before after references site named alike =>
    have hs (item : Item) : u ++ ⟨before ++ item :: after, references⟩ ++ v =
        ⟨u.items ++ before ++ item :: (after ++ v.items),
          u.references ++ references ++ v.references⟩ := by
      ext1 <;> simp
    rw [hs, hs]
    exact .inside _ _ _ site named alike

end Scope

namespace FileContext
variable (ctx : FileContext) (enclosing : List String)

theorem ItemOf.redocument {ctx : FileContext} {enclosing : List String} {s t : Site} {item : Item}
    (h : ctx.ItemOf enclosing s item) (hn : s.node = t.node) :
    ctx.ItemOf enclosing t { item with doc := DocComment.ofSite ctx.source t } := by
  obtain ⟨node, underError, before⟩ := t
  obtain rfl : s.node = node := hn
  cases h with
  | inlineModule kind named inner => exact .inlineModule kind named inner
  | dataType form named => exact .dataType form named
  | plain kind rest named => exact .plain kind rest named

theorem keeps_congr {s t : Site} (hn : s.node = t.node) (h : ctx.Keeps s) : ctx.Keeps t := by
  obtain ⟨kind, named, included, loose⟩ := h
  rw [hn] at kind named included loose
  exact ⟨kind, named, included, loose⟩

/-- Where a node stands matters to its documentation only. -/
theorem contribution_eq_redocument {s t : Site} (hn : s.node = t.node) :
    ctx.contribution enclosing t =
      (ctx.contribution enclosing s).redocument (DocComment.ofSite ctx.source t) := by
  obtain ⟨hk, hc⟩ | ⟨hk, hf, r, hr, hc⟩ | ⟨hk, _, item, hi, hc⟩ := ctx.contribution_cases enclosing s
  · rw [hc]
    exact contribution_of_not_keeps fun h => hk (ctx.keeps_congr hn.symm h)
  · have hr' : ctx.ReferenceOf enclosing t r := by
      cases hr with
      | fileModule named =>
        rw [hn] at named ⊢
        exact .fileModule named
    rw [hc]
    exact contribution_of_referenceOf (ctx.keeps_congr hn hk) (hn ▸ hf) hr'
  · rw [hc]
    exact contribution_of_itemOf (ctx.keeps_congr hn hk) (hi.redocument hn)

theorem contribution_congr {s t : Site} (hn : s.node = t.node)
    (hd : DocComment.ofSite ctx.source s = DocComment.ofSite ctx.source t) :
    ctx.contribution enclosing s = ctx.contribution enclosing t := by
  rw [ctx.contribution_eq_redocument enclosing hn, ← hd,
    ← ctx.contribution_eq_redocument enclosing rfl]

def assemble (underError : Bool) (before : List Node) (n : Node) : Scope :=
  if n.isError then ctx.assembleInside enclosing n
  else ctx.contribution enclosing ⟨n, underError, before⟩

def assembleAll (underError : Bool) (before : List Node) : List Node → Scope
  | [] => .empty
  | c :: cs =>
    (if c.named then ctx.assemble enclosing underError before c else .empty) ++
      assembleAll underError (c :: before) cs

theorem assembleInside_eq (n : Node) :
    ctx.assembleInside enclosing n = ctx.assembleAll enclosing n.isError [] n.children := by
  have run (underError : Bool) (before cs : List Node) :
      .join ((Site.spliceAll underError before cs).map (ctx.contribution enclosing)) =
        ctx.assembleAll enclosing underError before cs := by
    induction cs generalizing before with
    | nil => simp [Site.spliceAll, assembleAll, Scope.join]
    | cons c cs ih =>
      rw [Site.spliceAll, List.map_append, Scope.join_append, ih, assembleAll]
      congr 1
      split
      · rw [Site.splice_eq, assemble]
        split
        · exact (ctx.assembleInside_eq_join enclosing c).symm
        · simp [Scope.join]
      · rfl
  rw [assembleInside_eq_join, Site.members, run]

theorem assembleAll_append (underError : Bool) (before xs ys : List Node) :
    ctx.assembleAll enclosing underError before (xs ++ ys) =
      ctx.assembleAll enclosing underError before xs ++
        ctx.assembleAll enclosing underError (xs.reverse ++ before) ys := by
  induction xs generalizing before with
  | nil => simp [assembleAll]
  | cons x xs ih => simp [assembleAll, ih, Scope.append_assoc]

/-- Siblings above that make the same run of comments are as good as each other. -/
theorem assembleAll_congr_before (underError : Bool) {before above : List Node} (cs : List Node)
    (h : DocComment.runAbove ctx.source before = DocComment.runAbove ctx.source above) :
    ctx.assembleAll enclosing underError before cs =
      ctx.assembleAll enclosing underError above cs := by
  induction cs generalizing before above with
  | nil => simp [assembleAll]
  | cons c cs ih =>
    have hc : ctx.contribution enclosing ⟨c, underError, before⟩ =
        ctx.contribution enclosing ⟨c, underError, above⟩ :=
      ctx.contribution_congr enclosing rfl (by simp only [DocComment.ofSite, h])
    have hrun : DocComment.runAbove ctx.source (c :: before) =
        DocComment.runAbove ctx.source (c :: above) := by
      simp only [DocComment.runAbove, h]
    rw [assembleAll, assembleAll, ih hrun, assemble, assemble, hc]

/-- But for documentation it does not matter where a run of siblings stands. -/
theorem assembleAll_redocument (underError otherError : Bool) (before above cs : List Node) :
    (ctx.assembleAll enclosing underError before cs).redocument none =
      (ctx.assembleAll enclosing otherError above cs).redocument none := by
  induction cs generalizing before above with
  | nil => simp [assembleAll]
  | cons c cs ih =>
    have hc : ctx.contribution enclosing ⟨c, otherError, above⟩ =
        (ctx.contribution enclosing ⟨c, underError, before⟩).redocument
          (DocComment.ofSite ctx.source ⟨c, otherError, above⟩) :=
      ctx.contribution_eq_redocument enclosing rfl
    rw [assembleAll, assembleAll, Scope.redocument_append, Scope.redocument_append,
      ih (c :: before) (c :: above), assemble, assemble, hc]
    congr 1
    split
    · split
      · rfl
      · rw [Scope.redocument_redocument]
    · rfl

theorem assembleAll_named (underError : Bool) (before cs : List Node) :
    (ctx.assembleAll enclosing underError before (cs.filter Node.named)).redocument none =
      (ctx.assembleAll enclosing underError before cs).redocument none := by
  induction cs generalizing before with
  | nil => rfl
  | cons c cs ih =>
    rw [List.filter_cons]
    split
    · next hc => simp only [assembleAll, Scope.redocument_append, ih]
    · next hc =>
      rw [assembleAll, if_neg hc, Scope.empty_append, ih]
      exact ctx.assembleAll_redocument enclosing underError underError before (c :: before) cs

end FileContext

/-- A region or a module ends a run of comments, whatever is inside. -/
theorem runAbove_boundary (source : Utf8.Bytes) {n : Node} (before : List Node)
    (h : n.kind = "ERROR" ∨ n.kind = "mod_item") :
    DocComment.runAbove source (n :: before) = [] := by
  have hrole : DocComment.role source n = .boundary := by
    rcases h with h | h <;> simp [DocComment.role, h]
  simp [DocComment.runAbove, hrole]

namespace Dissolves
variable {ctx : FileContext} {trail cs ds : List Node}

/-- What is around a changed node stays the same if the node ends runs of comments. -/
theorem alikeAt_around {c d : Node} (enclosing : List String) (underError : Bool)
    (above before after : List Node) (hc : c.named) (hd : d.named) (hk : d.kind = c.kind)
    (hb : c.kind = "ERROR" ∨ c.kind = "mod_item")
    (h : Scope.AlikeAt ctx.source trail
      (ctx.assemble enclosing underError (before.reverse ++ above) c)
      (ctx.assemble enclosing underError (before.reverse ++ above) d)) :
    Scope.AlikeAt ctx.source trail
      (ctx.assembleAll enclosing underError above (before ++ c :: after))
      (ctx.assembleAll enclosing underError above (before ++ d :: after)) := by
  have hrun : DocComment.runAbove ctx.source (c :: (before.reverse ++ above)) =
      DocComment.runAbove ctx.source (d :: (before.reverse ++ above)) := by
    rw [runAbove_boundary _ _ hb, runAbove_boundary _ _ (hk ▸ hb)]
  rw [ctx.assembleAll_append, ctx.assembleAll_append, FileContext.assembleAll,
    FileContext.assembleAll, if_pos hc, if_pos hd,
    ctx.assembleAll_congr_before enclosing underError after hrun, ← Scope.append_assoc,
    ← Scope.append_assoc]
  exact h.append _ _

end Dissolves

section ModuleBody
variable {module body changed : Node} {head tail : List Node}

private theorem find?_swap {p : Node → Bool} {x y : Node} (head tail : List Node) (hx : p x = false)
    (hy : p y = false) : (head ++ x :: tail).find? p = (head ++ y :: tail).find? p := by
  rw [List.find?_append, List.find?_append, List.find?_cons, List.find?_cons, hx, hy]

theorem child?_body (children : module.children = head ++ body :: tail)
    (first : ∀ c ∈ head, c.field ≠ some "body") (role : body.field = some "body") :
    module.child? "body" = some body := by
  have hhead : head.find? (fun c => c.field == some "body") = none :=
    List.find?_eq_none.mpr fun c hc => by simpa using first c hc
  rw [Node.child?, children, List.find?_append, hhead]
  simp [role]

theorem fieldText?_of_change (source : Utf8.Bytes)
    (children : module.children = head ++ body :: tail) (role : body.field = some "body")
    (role' : changed.field = some "body") :
    (module.withChildren (head ++ changed :: tail)).fieldText? source "name" =
      module.fieldText? source "name" := by
  have hchild : (module.withChildren (head ++ changed :: tail)).child? "name" = module.child? "name" := by
    rw [Node.child?, Node.child?, children]
    exact find?_swap head tail (by simp [role']) (by simp [role])
  rw [Node.fieldText?, Node.fieldText?, hchild]

theorem visibility_of_change (source : Utf8.Bytes)
    (children : module.children = head ++ body :: tail) (list : body.kind = "declaration_list")
    (list' : changed.kind = "declaration_list") :
    Visibility.ofNode source (module.withChildren (head ++ changed :: tail)) =
      Visibility.ofNode source module := by
  have hfind : (module.withChildren (head ++ changed :: tail)).children.find?
      (fun c => c.kind == "visibility_modifier") =
        module.children.find? fun c => c.kind == "visibility_modifier" := by
    rw [children]
    exact find?_swap head tail (by simp [list']) (by simp [list])
  rw [Visibility.ofNode, Visibility.ofNode, hfind]

/-- The change shows in the content of the module item only. -/
theorem FileContext.module_alikeAt (ctx : FileContext) (enclosing : List String) (underError : Bool)
    (above : List Node) {trail inside : List Node} (kind : module.kind = "mod_item")
    (children : module.children = head ++ body :: tail)
    (first : ∀ c ∈ head, c.field ≠ some "body") (role : body.field = some "body")
    (list : body.kind = "declaration_list")
    (alike : ∀ enclosing, Scope.AlikeAt ctx.source trail (ctx.assembleInside enclosing body)
      (ctx.assembleInside enclosing (body.withChildren inside))) :
    Scope.AlikeAt ctx.source (module :: trail) (ctx.assemble enclosing underError above module)
      (ctx.assemble enclosing underError above
        (module.withChildren (head ++ body.withChildren inside :: tail))) := by
  let changed : Node := body.withChildren inside
  let s : Site := ⟨module, underError, above⟩
  let t : Site := ⟨module.withChildren (head ++ changed :: tail), underError, above⟩
  have hbody : s.node.child? "body" = some body := child?_body children first role
  have hbody' : t.node.child? "body" = some changed := child?_body rfl first role
  have hname : t.node.fieldText? ctx.source "name" = s.node.fieldText? ctx.source "name" :=
    fieldText?_of_change ctx.source children role role
  have hvisibility : Visibility.ofNode ctx.source t.node = Visibility.ofNode ctx.source s.node :=
    visibility_of_change ctx.source children list list
  have hitem (name : String) (details : Details Item) :
      t.item ctx.source name details = s.item ctx.source name details := by
    unfold Site.item
    rw [hvisibility]
    rfl
  have hkeeps : ctx.Keeps t ↔ ctx.Keeps s := by
    rw [ctx.keeps_module kind, ctx.keeps_module kind, hname, hvisibility]
  have herror : module.isError = false := by simp [Node.isError, kind]
  have hassemble : ctx.assemble enclosing underError above module = ctx.contribution enclosing s := by
    rw [FileContext.assemble, herror]
    rfl
  have hassemble' : ctx.assemble enclosing underError above (module.withChildren (head ++ changed :: tail)) =
      ctx.contribution enclosing t := by
    rw [FileContext.assemble, show (module.withChildren (head ++ changed :: tail)).isError = false from herror]
    rfl
  rw [hassemble, hassemble']
  by_cases hk : ctx.Keeps s
  · obtain ⟨name, hn⟩ := Option.isSome_iff_exists.mp ((ctx.keeps_module kind).mp hk).1
    rw [contribution_of_itemOf hk (.inlineModule kind hn hbody),
      contribution_of_itemOf (hkeeps.mpr hk) (.inlineModule kind (hname.trans hn) hbody'), hitem]
    exact .inside [] [] [] s hn (alike _)
  · rw [contribution_of_not_keeps hk, contribution_of_not_keeps fun h => hk (hkeeps.mp h)]
    exact .same _ _

end ModuleBody

/-- A run of siblings makes the same scope after the change, but for documentation where it was. -/
theorem Dissolves.alikeAt (ctx : FileContext) {trail cs ds : List Node} (h : Dissolves trail cs ds)
    (enclosing : List String) (underError : Bool) (above : List Node) :
    Scope.AlikeAt ctx.source trail (ctx.assembleAll enclosing underError above cs)
      (ctx.assembleAll enclosing underError above ds) := by
  induction h generalizing enclosing underError above with
  | here before region after named error =>
    have hregion : (ctx.assembleAll enclosing true [] region.children).redocument none =
        (ctx.assembleAll enclosing underError (before.reverse ++ above)
          region.namedChildren).redocument none := by
      rw [Node.namedChildren, ctx.assembleAll_named]
      exact ctx.assembleAll_redocument enclosing _ _ _ _ _
    apply Scope.AlikeAt.here
    rw [ctx.assembleAll_append, ctx.assembleAll_append, ctx.assembleAll_append,
      FileContext.assembleAll, if_pos named, FileContext.assemble, if_pos error, ctx.assembleInside_eq,
      error]
    simp only [Scope.redocument_append, hregion]
    congr 2
    exact ctx.assembleAll_redocument enclosing _ _ _ _ _
  | @inRegion before region after trail inside named error step ih =>
    have hkind : region.kind = "ERROR" := by simpa [Node.isError] using error
    refine alikeAt_around enclosing underError above before after named named rfl (.inl hkind) ?_
    rw [FileContext.assemble, FileContext.assemble, Node.isError_withChildren, if_pos error, if_pos error,
      ctx.assembleInside_eq, ctx.assembleInside_eq]
    exact ih enclosing _ []
  | inModule before module after head body tail named kind children first role list step ih =>
    refine alikeAt_around enclosing underError above before after named named rfl (.inr kind) ?_
    refine ctx.module_alikeAt enclosing underError _ kind children first role list ?_
    intro enclosing
    rw [ctx.assembleInside_eq, ctx.assembleInside_eq]
    exact ih enclosing _ []

theorem filterMap_reach {β : Type} {f : Node → Option β} {n : Node} (hn : f n = none) :
    n.reach.filterMap f = (Node.reachAll n.children).filterMap f := by
  rw [Node.reach_eq, List.filterMap_cons_none hn]

/-- A node that is not collected may change as long as what it reaches does not. -/
theorem filterMap_reachAll_swap {β : Type} {f : Node → Option β} {c d : Node}
    (before after : List Node) (hn : c.named = d.named) (hc : f c = none) (hd : f d = none)
    (h : (Node.reachAll c.children).filterMap f = (Node.reachAll d.children).filterMap f) :
    (Node.reachAll (before ++ c :: after)).filterMap f =
      (Node.reachAll (before ++ d :: after)).filterMap f := by
  rw [Node.reachAll_append, Node.reachAll_append, Node.reachAll, Node.reachAll, hn]
  cases d.named with
  | false => simp
  | true => simp [filterMap_reach hc, filterMap_reach hd, h]

namespace Dissolves
variable {trail cs ds : List Node}

theorem filterMap_reachAll {β : Type} (f : Node → Option β)
    (hf : ∀ n : Node, n.kind = "ERROR" ∨ n.kind = "mod_item" ∨ n.kind = "declaration_list" →
      f n = none) (h : Dissolves trail cs ds) :
    (Node.reachAll ds).filterMap f = (Node.reachAll cs).filterMap f := by
  induction h with
  | here before region after named error =>
    have hkind : region.kind = "ERROR" := by simpa [Node.isError] using error
    rw [Node.namedChildren, Node.reachAll_append, Node.reachAll_append, Node.reachAll_append,
      Node.reachAll_named, Node.reachAll, if_pos named]
    simp [filterMap_reach (hf region (.inl hkind))]
  | inRegion before region after named error step ih =>
    have hkind : region.kind = "ERROR" := by simpa [Node.isError] using error
    exact filterMap_reachAll_swap before after rfl (hf _ (.inl hkind)) (hf _ (.inl hkind)) ih
  | inModule before module after head body tail named kind children _ _ list step ih =>
    refine filterMap_reachAll_swap before after rfl (hf _ (.inr (.inl kind)))
      (hf _ (.inr (.inl kind))) ?_
    rw [children]
    exact filterMap_reachAll_swap head tail rfl (hf _ (.inr (.inr list)))
      (hf _ (.inr (.inr list))) ih

theorem build_eq {root : Node} (source : Utf8.Bytes) (includePrivate : Bool)
    (hroot : root.kind = "source_file") (h : Dissolves trail root.children cs) :
    ImplIndex.build source includePrivate (root.withChildren cs) =
      ImplIndex.build source includePrivate root := by
  have collects {β : Type} (f : Node → Option β) (hf : ∀ n : Node, n.kind ∈
      ["source_file", "ERROR", "mod_item", "declaration_list"] → f n = none) :
      (root.withChildren cs).reach.filterMap f = root.reach.filterMap f := by
    rw [filterMap_reach (hf _ (by simp [hroot])), filterMap_reach (hf _ (by simp [hroot]))]
    exact h.filterMap_reachAll f fun n hn => hf n (by simp [hn])
  rw [ImplIndex.build_eq, ImplIndex.build_eq, collects (Node.implBlock? source includePrivate), collects (Node.dataName? source)]
  · intro n hn
    have hkind : isDataKind n.kind = false := by
      simp only [List.mem_cons, List.not_mem_nil, or_false] at hn
      rcases hn with hn | hn | hn | hn <;> rw [hn] <;> decide
    simp [Node.dataName?, hkind]
  · intro n hn
    have hkind : n.kind ≠ "impl_item" := by
      rintro hkind
      simp [hkind] at hn
    simp [Node.implBlock?, hkind]

end Dissolves

/-- Error regions are transparent: after one gives way to its named children, the outline of the file
is the same but for documentation in the scope of the region. -/
theorem error_region_transparent {source : Utf8.Bytes} {root : Node} {trail cs : List Node}
    (includePrivate : Bool) (hroot : root.kind = "source_file")
    (h : Dissolves trail root.children cs) :
    Scope.AlikeAt source trail (fileScope source includePrivate root)
      (fileScope source includePrivate (root.withChildren cs)) := by
  have hctx : FileContext.ofFile source includePrivate (root.withChildren cs) =
      FileContext.ofFile source includePrivate root := by
    rw [FileContext.ofFile, FileContext.ofFile, h.build_eq source includePrivate hroot]
  rw [fileScope_eq, fileScope_eq, hctx, FileContext.assembleInside_eq,
    FileContext.assembleInside_eq]
  exact h.alikeAt (.ofFile source includePrivate root) [] root.isError []

namespace StrayParenthesis

/-- A module with an error region: `mod m { /// d`, on the next line `fn g() {} ) }`. In the region
the comment does not count, since its line begins with something else. -/
def source : Utf8.Bytes := Utf8.encode "mod m \x7b /// d\nfn g() \x7b\x7d ) \x7d"

private abbrev node := Node.ofRange source
private abbrev token := Node.token source

def region : Node := { node "ERROR" none 8 25 [
  node "line_comment" none 8 14 [],
  node "function_item" none 14 23 [
    token "fn" 14 16, node "identifier" (some "name") 17 18 [],
    node "parameters" (some "parameters") 18 20 [token "(" 18 19, token ")" 19 20],
    node "block" (some "body") 21 23 [token "\x7b" 21 22, token "\x7d" 22 23]],
  token ")" 24 25] with hasError := true }

def body : Node := { node "declaration_list" (some "body") 6 27 [
  token "\x7b" 6 7, region, token "\x7d" 26 27] with hasError := true }

def module : Node := { node "mod_item" none 0 27 [
  token "mod" 0 3, node "identifier" (some "name") 4 5 [], body] with hasError := true }

def root : Node := { node "source_file" none 0 27 [module] with hasError := true }

/-- The body with the comment and the function in the place of the region. -/
def mended : Node :=
  body.withChildren ([token "\x7b" 6 7] ++ (region.namedChildren ++ [token "\x7d" 26 27]))

def mendedModule : Node :=
  module.withChildren ([token "mod" 0 3, node "identifier" (some "name") 4 5 []] ++ mended :: [])

theorem dissolves : Dissolves [module] root.children ([] ++ mendedModule :: []) :=
  .inModule [] module [] [token "mod" 0 3, node "identifier" (some "name") 4 5 []] body [] rfl rfl
    rfl (by decide) rfl rfl (.here [token "\x7b" 6 7] region [token "\x7d" 26 27] rfl rfl)

theorem outline_alike :
    root.kind = "source_file" ∧ Dissolves [module] root.children [mendedModule] ∧
      Scope.AlikeAt source [module] (fileScope source true root)
        (fileScope source true (root.withChildren [mendedModule])) :=
  ⟨rfl, dissolves, error_region_transparent true rfl dissolves⟩

end StrayParenthesis
end RustOutline
