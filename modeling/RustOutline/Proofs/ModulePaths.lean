import RustOutline.Outline.ModuleSummary
import RustOutline.Proofs.ConcreteTree
import RustOutline.Proofs.MemberContribution

/-! The flat view agrees with the outline on where modules are: the names that make up the path of a
summary are those under which its scope was assembled, and so those of the folders in which its file
modules are expected. -/
namespace RustOutline

/-- Candidate files are named as paths are, with a slash between the names. -/
theorem expectedModulePaths_eq (enclosing : List String) (name : String) :
    expectedModulePaths enclosing name =
      ["/".intercalate (enclosing ++ [name ++ ".rs"]),
        "/".intercalate (enclosing ++ [name, "mod.rs"])] := by
  have folder (last : List String) (hlast : last ≠ []) :
      "/".intercalate (enclosing ++ last) =
        String.join (enclosing.map (· ++ "/")) ++ "/".intercalate last := by
    induction enclosing with
    | nil => simp
    | cons outer rest ih =>
      rw [List.cons_append, String.intercalate_cons_of_ne_nil (by simp [hlast]), ih, List.map_cons,
        String.join_cons]
      simp [String.append_assoc]
  rw [folder _ (by simp), folder _ (by simp), String.intercalate_singleton,
    String.intercalate_cons_of_ne_nil (by simp), String.intercalate_singleton]
  simp [expectedModulePaths, String.append_assoc]

namespace ModuleSummary

/-- The summary is that of the module to which the names lead: of the crate root if there are none,
and else of a module that bears the last of them. -/
inductive Describes (file : Scope) : List String → ModuleSummary → Prop
  | root {m : ModuleSummary} (name : m.name = "") (span : m.span = none)
      (items : m.items = file.items.filter (!·.isModule))
      (references : m.references = file.references) : Describes file [] m
  | module {m : ModuleSummary} {names : List String} {scope inner : Scope} {item : Item}
      (outer : file.At names scope) (mem : item ∈ scope.items) (nested : item.inner? = some inner)
      (name : m.name = item.name) (span : m.span = some item.span)
      (items : m.items = inner.items.filter (!·.isModule))
      (references : m.references = inner.references) : Describes file (names ++ [m.name]) m

/-- The pending module stands in the file, and the names that come with it lead there. -/
def Pending.StandsIn (file : Scope) (p : Pending) : Prop :=
  ∃ names scope, file.At names scope ∧ p.2 ∈ scope.items ∧ p.1 = names ++ [p.2.name]

theorem list_cons_module {segments : List String} {item : Item} {inner : Scope}
    {rest : List Pending} (h : item.inner? = some inner) :
    list ((segments, item) :: rest) =
      ofModule segments item inner :: list (pending segments inner.items ++ rest) := by
  rw [list]
  split
  · next hn => simp [h] at hn
  · next hs =>
    obtain rfl := Option.some.inj (h.symm.trans hs)
    rfl

variable {file : Scope}

theorem standsIn_of_mem_pending {names : List String} {scope : Scope} (h : file.At names scope)
    {p : Pending} (hp : p ∈ pending names scope.items) : p.StandsIn file := by
  obtain ⟨item, hi, rfl⟩ := List.mem_map.mp hp
  exact ⟨names, scope, h, (List.mem_filter.mp hi).1, rfl⟩

/-- One turn of the loop: what it adds stands in the file if what it takes does. -/
theorem Pending.StandsIn.step {segments : List String} {item : Item} {inner : Scope}
    (h : Pending.StandsIn file (segments, item)) (nested : item.inner? = some inner) {p : Pending}
    (hp : p ∈ pending segments inner.items) : p.StandsIn file := by
  obtain ⟨names, scope, hat, hmem, hsegments⟩ := h
  obtain rfl : segments = names ++ [item.name] := hsegments
  exact standsIn_of_mem_pending (.inner hat hmem nested) hp

theorem exists_of_mem_list {ps : List Pending} (h : ∀ p ∈ ps, p.StandsIn file) {m : ModuleSummary}
    (hm : m ∈ list ps) :
    ∃ names scope item inner, file.At names scope ∧ item ∈ scope.items ∧ item.inner? = some inner ∧
      m = ofModule (names ++ [item.name]) item inner := by
  fun_induction list ps with
  | case1 => simp at hm
  | case2 segments item rest _ ih => exact ih (fun p hp => h p (List.mem_cons_of_mem _ hp)) hm
  | case3 segments item rest inner nested ih =>
    have hitem := h (segments, item) List.mem_cons_self
    rcases List.mem_cons.mp hm with rfl | hm
    · obtain ⟨names, scope, hat, hmem, hsegments⟩ := hitem
      exact ⟨names, scope, item, inner, hat, hmem, nested, congrArg (ofModule · item inner) hsegments⟩
    · refine ih (fun p hp => ?_) hm
      rcases List.mem_append.mp hp with hp | hp
      · exact hitem.step nested hp
      · exact h p (List.mem_cons_of_mem _ hp)

/-- Every summary tells of the root or of a module of the file, with the names that lead there in its
path. -/
theorem exists_describes {m : ModuleSummary} (hm : m ∈ flattenModules file) :
    ∃ segments scope, m.Describes file segments ∧ file.At segments scope ∧
      m.path = pathText segments ∧ m.references = scope.references := by
  rcases List.mem_cons.mp hm with rfl | hm
  · exact ⟨[], file, .root rfl rfl rfl rfl, .self, String.intercalate_nil.symm, rfl⟩
  · obtain ⟨names, scope, item, inner, hat, hmem, nested, rfl⟩ :=
      exists_of_mem_list (fun p hp => standsIn_of_mem_pending .self hp) hm
    let segments := names ++ [item.name]
    have hdescribes : Describes file segments (ofModule segments item inner) :=
      .module (m := ofModule segments item inner) hat hmem nested rfl rfl rfl rfl
    exact ⟨segments, inner, hdescribes, .inner hat hmem nested, rfl, rfl⟩

end ModuleSummary

/-- The paths of the flat view are those that the outline was built with: the names in the path of a
summary are the folders of the files that it refers to. -/
theorem summary_paths_agree (source : Utf8.Bytes) (includePrivate : Bool) (root : Node) :
    ∀ m ∈ flattenModules (fileScope source includePrivate root), ∃ segments,
      m.Describes (fileScope source includePrivate root) segments ∧
      m.path = "::".intercalate segments ∧
      ∀ r ∈ m.references,
        r.expectedPaths = expectedModulePaths segments r.name ∧
        r.expectedPaths = ["/".intercalate (segments ++ [r.name ++ ".rs"]),
          "/".intercalate (segments ++ [r.name, "mod.rs"])] := by
  intro m hm
  obtain ⟨segments, scope, hdescribes, hat, hpath, hreferences⟩ := ModuleSummary.exists_describes hm
  refine ⟨segments, hdescribes, hpath, fun r hr => ?_⟩
  rw [fileScope_eq] at hat
  obtain ⟨n, _, rfl⟩ := FileContext.exists_enters_of_at hat
  rw [hreferences] at hr
  obtain ⟨s, _, _, _, hof⟩ := FileContext.mem_references.mp hr
  cases hof with
  | fileModule _ => exact ⟨rfl, expectedModulePaths_eq _ _⟩

namespace NestedModules

/-- A file module two modules deep: `mod a { mod b { mod r; } }`. -/
def source : Utf8.Bytes := Utf8.encode "mod a \x7b mod b \x7b mod r; \x7d \x7d"

private abbrev node := Node.ofRange source
private abbrev token := Node.token source

def fileModule : Node := node "mod_item" none 16 22 [
  token "mod" 16 19, node "identifier" (some "name") 20 21 [], token ";" 21 22]

def innerBody : Node :=
  node "declaration_list" (some "body") 14 24 [token "\x7b" 14 15, fileModule, token "\x7d" 23 24]

def innerModule : Node := node "mod_item" none 8 24 [
  token "mod" 8 11, node "identifier" (some "name") 12 13 [], innerBody]

def outerBody : Node :=
  node "declaration_list" (some "body") 6 26 [token "\x7b" 6 7, innerModule, token "\x7d" 25 26]

def outerModule : Node := node "mod_item" none 0 26 [
  token "mod" 0 3, node "identifier" (some "name") 4 5 [], outerBody]

def root : Node := node "source_file" none 0 26 [outerModule]

def reference : ModuleReference where
  name := "r"
  visibility := .inherited
  expectedPaths := ["a/b/r.rs", "a/b/r/mod.rs"]
  span := fileModule.span

def innerItem : Item :=
  Site.item source ⟨innerModule, false, [token "\x7b" 6 7]⟩ "b" (.inlineModule [] [reference])

def outerItem : Item :=
  Site.item source ⟨outerModule, false, []⟩ "a" (.inlineModule [innerItem] [])

def summary : ModuleSummary := .ofModule ["a", "b"] innerItem ⟨[], [reference]⟩

def innerSite : Site := ⟨innerModule, false, [token "\x7b" 6 7]⟩

def outerSite : Site := ⟨outerModule, false, []⟩

def context : FileContext := .ofFile source true root

theorem members_eq : Site.members root = [outerSite] ∧ Site.members outerBody = [innerSite] :=
  ⟨rfl, rfl⟩

theorem named : innerSite.node.fieldText? source "name" = some "b" ∧
    outerSite.node.fieldText? source "name" = some "a" := by
  decide +kernel

theorem assembleInside_innerBody :
    context.assembleInside ["a", "b"] innerBody = ⟨[], [reference]⟩ := by
  rw [FileContext.assembleInside_eq_join]
  rfl

theorem assembleInside_outerBody :
    context.assembleInside ["a"] outerBody = ⟨[innerItem], []⟩ := by
  have hinner := context.contribution_of_body ["a"] (s := innerSite) rfl named.1 rfl
  rw [FileContext.assembleInside_eq_join, members_eq.2, List.map_singleton, hinner]
  exact congrArg (fun body => Scope.join [context.declareModule ["a"] innerSite "b" (some body)])
    assembleInside_innerBody

theorem fileScope_root : fileScope source true root = ⟨[outerItem], []⟩ := by
  have houter := context.contribution_of_body [] (s := outerSite) rfl named.2 rfl
  rw [fileScope_eq, FileContext.assembleInside_eq_join, members_eq.1, List.map_singleton]
  change Scope.join [context.contribution [] outerSite] = _
  rw [houter]
  exact congrArg (fun body => Scope.join [context.declareModule [] outerSite "a" (some body)])
    assembleInside_outerBody

theorem summary_mem : summary ∈ flattenModules (fileScope source true root) := by
  have houter : outerItem.inner? = some ⟨[innerItem], []⟩ := rfl
  have hinner : innerItem.inner? = some ⟨[], [reference]⟩ := rfl
  have hroot : ModuleSummary.pending [] (Scope.mk [outerItem] []).items = [(["a"], outerItem)] := rfl
  have hnested : ModuleSummary.pending ["a"] (Scope.mk [innerItem] []).items =
      [(["a", "b"], innerItem)] := rfl
  rw [fileScope_root, flattenModules, hroot, ModuleSummary.list_cons_module houter, hnested,
    List.append_nil, ModuleSummary.list_cons_module hinner]
  simp [summary]

/-- The path `a::b` stands for the folder `a/b`. -/
theorem paths_agree :
    summary ∈ flattenModules (fileScope source true root) ∧ summary.path = "a::b" ∧
      ∃ segments, summary.Describes (fileScope source true root) segments ∧
        summary.path = "::".intercalate segments ∧
        ∀ r ∈ summary.references,
          r.expectedPaths = expectedModulePaths segments r.name ∧
          r.expectedPaths = ["/".intercalate (segments ++ [r.name ++ ".rs"]),
            "/".intercalate (segments ++ [r.name, "mod.rs"])] :=
  ⟨summary_mem, by decide, summary_paths_agree source true root summary summary_mem⟩

end NestedModules
end RustOutline
