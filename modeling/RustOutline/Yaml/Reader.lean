import RustOutline.Proofs.CheckedSettings
import RustOutline.Proofs.FieldOverlay
import RustOutline.Yaml.Document

/-! The documents that this library reads by itself: plain, quoted and flow scalars, lists, mappings
and merge keys, without tags, anchors, dates and block scalars. -/
namespace RustOutline.Yaml

theorem not_isObject_of_resolve {cs : List Char} {v : Value} (h : resolve cs = .ok v) :
    v.isObject = false := by
  unfold resolve at h
  split at h
  · cases h
  split at h
  · cases h
    rfl
  split at h
  · cases h
    rfl
  split at h
  · cases h
    rfl
  split at h
  · obtain ⟨x, -, rfl⟩ := map_eq_ok.mp h
    rfl
  split at h
  · obtain ⟨n, -, rfl⟩ := map_eq_ok.mp h
    rfl
  · cases h
    rfl

namespace Made

theorem both_eq_ok {α β : Type} {a : Made α} {b : Made β} {x : α} {y : β} :
    a.both b = .ok (x, y) ↔ a = .ok x ∧ b = .ok y := by
  cases a <;> cases b <;> simp [both]

theorem atDepth_eq_ok {depth : Nat} {α : Type} {a : Except Fault α} {x : α} :
    atDepth depth a = .ok x ↔ a = .ok x := by
  cases a <;> simp [atDepth]

end Made

namespace Content

mutual
theorem unambiguous_of_value {depth : Nat} : ∀ {c : Content} {v : Value},
    c.value depth = .ok v → v.Unambiguous
  | .scalar plain text, v, h => by
    rw [value, Made.atDepth_eq_ok] at h
    split at h
    · exact .leaf (not_isObject_of_resolve h)
    · obtain rfl := Except.ok.inj h
      exact .leaf rfl
  | .list items, v, h => by
    rw [value] at h
    obtain ⟨vs, -, rfl⟩ := map_eq_ok.mp h
    exact .leaf rfl
  | .mapping entries, v, h => by
    rw [value] at h
    obtain ⟨gs, hgs, rfl⟩ := map_eq_ok.mp h
    exact Fields.Unambiguous.foldl_put (.object Fields.distinct_nil nofun)
      (unambiguous_of_fields hgs)
  | .unmergeable, v, h => by
    rw [value] at h
    cases h

theorem unambiguous_of_fields {depth : Nat} : ∀ {es : List (Content × Content)} {gs : Fields},
    fields depth es = .ok gs → ∀ g ∈ gs, g.2.Unambiguous
  | [], gs, h => by
    rw [fields] at h
    obtain rfl := Except.ok.inj h
    exact nofun
  | (k, c) :: es, gs, h => by
    rw [fields] at h
    obtain ⟨⟨⟨name, v⟩, rest⟩, hboth, rfl⟩ := map_eq_ok.mp h
    obtain ⟨hfirst, hrest⟩ := Made.both_eq_ok.mp hboth
    obtain ⟨-, hv⟩ := Made.both_eq_ok.mp hfirst
    exact List.forall_mem_cons.mpr ⟨unambiguous_of_value hv, unambiguous_of_fields hrest⟩
end

end Content

theorem unambiguous_of_read {bytes : Utf8.Bytes} {v : Value} (h : read bytes = .ok v) :
    v.Unambiguous := by
  obtain ⟨root, -, hvalue⟩ := bind_eq_ok.mp h
  split at hvalue
  next hv => exact Except.ok.inj hvalue ▸ Content.unambiguous_of_value hv
  next => cases hvalue

def reader : Reader where
  read bytes := (read bytes).mapError Fault.problem
  unambiguous _ _ h := unambiguous_of_read (mapError_eq_ok.mp h)

end RustOutline.Yaml
