import Mathlib.Data.List.Forall2
import RustOutline.Proofs.MemberContribution

/-! Every declaration is accounted for: the items and the references of a scope are drawn from its
members in order, each member at most once, and from exactly those members that are kept. -/
namespace RustOutline

/-- The outputs come one by one from the elements at some places of a list: in order, each place
once, and from all elements that are used. -/
structure Drawn {α β : Type} (xs : List α) (used : α → Prop) (gives : α → β → Prop)
    (places : List Nat) (out : List β) : Prop where
  ordered : places.Pairwise (· < ·)
  complete : ∀ i, i ∈ places ↔ ∃ x, xs[i]? = some x ∧ used x
  origins : List.Forall₂ (fun i y => ∃ x, xs[i]? = some x ∧ gives x y) places out

namespace Drawn
variable {α β : Type} {used : α → Prop} {gives : α → β → Prop} {xs : List α} {x : α} {y : β}
  {places : List Nat} {out : List β}

theorem nil : Drawn ([] : List α) used gives [] [] where
  ordered := .nil
  complete i := by simp
  origins := .nil

private theorem origins_shift (h : Drawn xs used gives places out) :
    List.Forall₂ (fun i y => ∃ z, (x :: xs)[i]? = some z ∧ gives z y) (places.map (· + 1)) out := by
  rw [List.forall₂_map_left_iff]
  simpa using h.origins

private theorem ordered_shift (h : Drawn xs used gives places out) :
    (places.map (· + 1)).Pairwise (· < ·) := by
  rw [List.pairwise_map]
  exact h.ordered.imp fun hlt => by omega

private theorem mem_shift (h : Drawn xs used gives places out) (i : Nat) :
    i + 1 ∈ places.map (· + 1) ↔ ∃ z, xs[i]? = some z ∧ used z := by
  rw [← h.complete i]
  simp

theorem skip (h : Drawn xs used gives places out) (hx : ¬ used x) :
    Drawn (x :: xs) used gives (places.map (· + 1)) out where
  ordered := h.ordered_shift
  complete i := by
    cases i with
    | zero => simp [hx]
    | succ i => exact h.mem_shift i
  origins := h.origins_shift

theorem take (h : Drawn xs used gives places out) (hx : used x) (hy : gives x y) :
    Drawn (x :: xs) used gives (0 :: places.map (· + 1)) (y :: out) where
  ordered := by
    refine List.pairwise_cons.mpr ⟨fun i hi => ?_, h.ordered_shift⟩
    obtain ⟨j, _, rfl⟩ := List.mem_map.mp hi
    omega
  complete i := by
    cases i with
    | zero => simp [hx]
    | succ i =>
      rw [List.mem_cons, h.mem_shift i]
      simp
  origins := .cons ⟨x, rfl, hy⟩ h.origins_shift

/-- Elements that give one output or none, as they are used or not, have their outputs drawn. -/
theorem ofFlatMap (f : α → List β) (xs : List α)
    (step : ∀ x, (¬ used x ∧ f x = []) ∨ (used x ∧ ∃ y, gives x y ∧ f x = [y])) :
    ∃ places, Drawn xs used gives places (xs.flatMap f) := by
  induction xs with
  | nil => exact ⟨[], .nil⟩
  | cons x xs ih =>
    obtain ⟨places, h⟩ := ih
    rcases step x with ⟨hx, he⟩ | ⟨hx, y, hy, he⟩
    · exact ⟨_, by simpa [he] using h.skip hx⟩
    · exact ⟨_, by simpa [he] using h.take hx hy⟩

theorem ofFilterMap (f : α → Option β) (xs : List α)
    (step : ∀ x, (¬ used x ∧ f x = none) ∨ (used x ∧ ∃ y, gives x y ∧ f x = some y)) :
    ∃ places, Drawn xs used gives places (xs.filterMap f) := by
  rw [List.filterMap_eq_flatMap_toList]
  apply ofFlatMap
  intro x
  rcases step x with ⟨hx, he⟩ | ⟨hx, y, hy, he⟩
  · exact .inl ⟨hx, by rw [he]; rfl⟩
  · exact .inr ⟨hx, y, hy, by rw [he]; rfl⟩

end Drawn

namespace FileContext
variable (ctx : FileContext) (enclosing : List String)

theorem items_drawn (n : Node) :
    ∃ places, Drawn (Site.members n) (fun s => ctx.Keeps s ∧ ¬ s.node.IsFileModule)
      (ctx.ItemOf enclosing) places (ctx.assembleInside enclosing n).items := by
  rw [assembleInside_items]
  apply Drawn.ofFlatMap
  intro s
  obtain ⟨hk, hc⟩ | ⟨_, hf, r, _, hc⟩ | ⟨hk, hf, item, hi, hc⟩ := ctx.contribution_cases enclosing s
  · exact .inl ⟨fun h => hk h.1, by simp [hc]⟩
  · exact .inl ⟨fun h => h.2 hf, by simp [hc]⟩
  · exact .inr ⟨⟨hk, hf⟩, item, hi, by simp [hc]⟩

theorem references_drawn (n : Node) :
    ∃ places, Drawn (Site.members n) (fun s => ctx.Keeps s ∧ s.node.IsFileModule)
      (ctx.ReferenceOf enclosing) places (ctx.assembleInside enclosing n).references := by
  rw [assembleInside_references]
  apply Drawn.ofFlatMap
  intro s
  obtain ⟨hk, hc⟩ | ⟨hk, hf, r, hr, hc⟩ | ⟨_, hf, item, _, hc⟩ := ctx.contribution_cases enclosing s
  · exact .inl ⟨fun h => hk h.1, by simp [hc]⟩
  · exact .inr ⟨⟨hk, hf⟩, r, hr, by simp [hc]⟩
  · exact .inl ⟨fun h => hf h.2, by simp [hc]⟩

/-- No declaration of a scope is lost, repeated or moved. The places are those among the members of
the scope; the content of a module item is the scope of its body, to which the same applies. -/
theorem declarations_accounted (n : Node) :
    ∃ itemAt referenceAt : List Nat,
      Drawn (Site.members n) (fun s => ctx.Keeps s ∧ ¬ s.node.IsFileModule)
        (ctx.ItemOf enclosing) itemAt (ctx.assembleInside enclosing n).items ∧
      Drawn (Site.members n) (fun s => ctx.Keeps s ∧ s.node.IsFileModule)
        (ctx.ReferenceOf enclosing) referenceAt (ctx.assembleInside enclosing n).references ∧
      List.Disjoint itemAt referenceAt ∧
      ∀ i, (i ∈ itemAt ∨ i ∈ referenceAt) ↔ ∃ s, (Site.members n)[i]? = some s ∧ ctx.Keeps s := by
  obtain ⟨itemAt, hi⟩ := ctx.items_drawn enclosing n
  obtain ⟨referenceAt, hr⟩ := ctx.references_drawn enclosing n
  refine ⟨itemAt, referenceAt, hi, hr, ?_, ?_⟩
  · intro i h h'
    obtain ⟨s, hs, _, hf⟩ := (hi.complete i).mp h
    obtain ⟨s', hs', _, hf'⟩ := (hr.complete i).mp h'
    obtain rfl := Option.some.inj (hs.symm.trans hs')
    exact hf hf'
  · intro i
    rw [hi.complete, hr.complete]
    constructor
    · rintro (⟨s, hs, hk, _⟩ | ⟨s, hs, hk, _⟩)
      · exact ⟨s, hs, hk⟩
      · exact ⟨s, hs, hk⟩
    · rintro ⟨s, hs, hk⟩
      by_cases hf : s.node.IsFileModule
      · exact .inr ⟨s, hs, hk, hf⟩
      · exact .inl ⟨s, hs, hk, hf⟩

end FileContext
end RustOutline
