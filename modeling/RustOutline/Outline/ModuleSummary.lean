import RustOutline.Outline.Item

/-! The flat view of an outline: one record per module, the crate root first and every inline module
before its submodules. -/
namespace RustOutline

/-- One module: what it declares itself. The crate root has no name, path or span. -/
structure ModuleSummary where
  path : String
  name : String
  items : List Item
  references : List ModuleReference
  span : Option Span
deriving Inhabited

namespace ModuleSummary

def pathText (segments : List String) : String := "::".intercalate segments

def ofRoot (file : Scope) : ModuleSummary where
  path := ""
  name := ""
  items := file.items.filter (!·.isModule)
  references := file.references
  span := none

def ofModule (segments : List String) (item : Item) (inner : Scope) : ModuleSummary where
  path := pathText segments
  name := item.name
  items := inner.items.filter (!·.isModule)
  references := inner.references
  span := some item.span

/-- A module still to be listed, with the names that lead to it. -/
abbrev Pending := List String × Item

def pending (segments : List String) (items : List Item) : List Pending :=
  (items.filter Item.isModule).map fun item => (segments ++ [item.name], item)

mutual
def weight : Item → Nat
  | ⟨_, _, _, _, _, .inlineModule items _⟩ => 1 + weights items
  | _ => 1

def weights : List Item → Nat
  | [] => 0
  | item :: rest => weight item + weights rest
end

theorem weight_pos (item : Item) : 0 < weight item := by
  unfold weight
  split <;> omega

theorem weight_of_inner {item : Item} {inner : Scope} (h : item.inner? = some inner) :
    weight item = 1 + weights inner.items := by
  obtain ⟨name, rawText, doc, visibility, span, details⟩ := item
  cases details <;> simp_all [Item.inner?, weight]
  subst h
  rfl

def pendingWeight : List Pending → Nat
  | [] => 0
  | p :: ps => weight p.2 + pendingWeight ps

theorem pendingWeight_append (ps qs : List Pending) :
    pendingWeight (ps ++ qs) = pendingWeight ps + pendingWeight qs := by
  induction ps with
  | nil => simp [pendingWeight]
  | cons p ps ih => simp [pendingWeight, ih, Nat.add_assoc]

theorem pendingWeight_pending_le (segments : List String) (items : List Item) :
    pendingWeight (pending segments items) ≤ weights items := by
  induction items with
  | nil => simp [pending, pendingWeight, weights]
  | cons item rest ih =>
    simp only [pending, weights, List.filter_cons] at ih ⊢
    split
    · simp only [List.map_cons, pendingWeight]
      omega
    · omega

/-- The summaries of pending modules. Submodules come directly after their module, before the
modules that follow it. -/
def list : List Pending → List ModuleSummary
  | [] => []
  | (segments, item) :: rest =>
    match _h : item.inner? with
    | none => list rest
    | some inner => ofModule segments item inner :: list (pending segments inner.items ++ rest)
termination_by ps => pendingWeight ps
decreasing_by
  · have := weight_pos item
    simp only [pendingWeight]
    omega
  · have := pendingWeight_pending_le segments inner.items
    have := weight_of_inner _h
    simp only [pendingWeight, pendingWeight_append]
    omega

end ModuleSummary

def flattenModules (file : Scope) : List ModuleSummary :=
  .ofRoot file :: ModuleSummary.list (ModuleSummary.pending [] file.items)

end RustOutline
