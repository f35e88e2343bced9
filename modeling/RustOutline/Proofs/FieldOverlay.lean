import RustOutline.Proofs.FieldNames
import RustOutline.Settings.Merge

/-! Fields laid over others, seen from one name: what lies above decides, and where it says nothing
what lies below. -/
namespace RustOutline

namespace Value

@[simp] theorem over_none (v : Value) : Value.over none v = v := by
  cases v <;> rfl

theorem over_of_not_isObject {v : Value} (h : v.isObject = false) (old : Option Value) :
    Value.over old v = v := by
  cases v with
  | obj fs => cases h
  | _ => rfl

@[simp] theorem isObject_over (old : Option Value) (v : Value) :
    (Value.over old v).isObject = v.isObject := by
  cases v with
  | obj fs =>
    unfold Value.over
    split <;> rfl
  | _ => rfl

end Value

namespace Fields

theorem Distinct.overlay {base : Fields} (h : base.Distinct) (top : Fields) :
    Distinct (Fields.overlay base top) := by
  induction top generalizing base with
  | nil => rwa [Fields.overlay]
  | cons f top ih =>
    rw [Fields.overlay]
    exact ih (h.put _ _)

theorem get?_overlay {top : Fields} (h : top.Distinct) (base : Fields) (name : Key) :
    get? name (overlay base top) =
      match get? name top with
      | none => get? name base
      | some v => some (Value.over (get? name base) v) := by
  induction top generalizing base with
  | nil => rw [overlay, get?_nil]
  | cons f top ih =>
    obtain ⟨k, v⟩ := f
    obtain ⟨hk, htop⟩ := List.nodup_cons.mp h
    rw [overlay, ih htop, get?_cons, get?_put]
    by_cases hname : k.ident = name.ident
    · -- This field decides, as none of the later ones has its name.
      have habsent : get? name top = none := get?_eq_none (hname ▸ hk)
      simp [hname, habsent, get?_congr hname]
    · simp [hname]

theorem Unambiguous.distinct {fs : Fields} (h : fs.Unambiguous) : fs.Distinct := by
  cases h with
  | object distinct _ => exact distinct
  | leaf plain => cases plain

theorem Unambiguous.value {fs : Fields} (h : fs.Unambiguous) {f : Key × Value} (hf : f ∈ fs) :
    f.2.Unambiguous := by
  cases h with
  | object _ values => exact values f hf
  | leaf plain => cases plain

theorem Unambiguous.isMapping {fs : Fields} (h : fs.Unambiguous) : fs.IsMapping := by
  refine ⟨h.distinct, fun f hf gs hgs => ?_⟩
  have hvalue := h.value hf
  rw [hgs] at hvalue
  exact Unambiguous.distinct hvalue

/-- Fields put one after another keep their names apart, whatever is put. -/
theorem Unambiguous.foldl_put {fs gs : Fields} (h : fs.Unambiguous)
    (hgs : ∀ g ∈ gs, g.2.Unambiguous) :
    Unambiguous (gs.foldl (fun acc g => Fields.put g.1 g.2 acc) fs) := by
  induction gs generalizing fs with
  | nil => exact h
  | cons g gs ih =>
    obtain ⟨hg, hgs⟩ := List.forall_mem_cons.mp hgs
    refine ih (.object (h.distinct.put g.1 g.2) fun f hf => ?_) hgs
    obtain hf | hf := mem_put hf
    · exact h.value hf
    · exact hf ▸ hg

namespace IsMapping

theorem nil : IsMapping [] := ⟨distinct_nil, nofun⟩

theorem of_get? {fs : Fields} (h : fs.IsMapping) {name : Key} {v : Value}
    (hget : get? name fs = some v) : v.IsMapping := by
  obtain ⟨k, hmem⟩ := exists_mem_of_get? hget
  exact h.values _ hmem

theorem put {fs : Fields} (h : fs.IsMapping) (k : Key) {v : Value} (hv : v.IsMapping) :
    (fs.put k v).IsMapping := by
  refine ⟨h.distinct.put k v, fun f hf => ?_⟩
  obtain hf | rfl := mem_put hf
  · exact h.values f hf
  · exact hv

theorem foldl_put {fs gs : Fields} (h : fs.IsMapping) (hgs : ∀ f ∈ gs, f.2.IsMapping) :
    (gs.foldl (fun acc f => Fields.put f.1 f.2 acc) fs).IsMapping := by
  induction gs generalizing fs with
  | nil => exact h
  | cons g gs ih =>
    obtain ⟨hg, hgs⟩ := List.forall_mem_cons.mp hgs
    exact ih (h.put g.1 hg) hgs

theorem value_over {fs : Fields} (h : fs.IsMapping) (k : Key) {v : Value} (hv : v.IsMapping) :
    (Value.over (get? k fs) v).IsMapping := by
  cases v with
  | obj gs =>
    unfold Value.over
    split
    next base hbase =>
      rintro _ ⟨⟩
      exact (h.of_get? hbase base rfl).overlay gs
    next => exact hv
  | _ => exact hv

theorem overlay {base top : Fields} (h : base.IsMapping) (htop : top.IsMapping) :
    IsMapping (Fields.overlay base top) := by
  obtain ⟨-, htop⟩ := htop
  induction top generalizing base with
  | nil => rwa [Fields.overlay]
  | cons f top ih =>
    obtain ⟨hf, htop⟩ := List.forall_mem_cons.mp htop
    rw [Fields.overlay]
    exact ih (h.put f.1 (h.value_over f.1 hf)) htop

end IsMapping

/-- What the fields say about one field of a section. -/
def given? (topic name : Key) (fs : Fields) : Option Value :=
  (get? topic fs).bind (Value.field? name)

/-- A section that is there is an object. -/
def HasObject (topic : Key) (fs : Fields) : Prop := (get? topic fs).all Value.isObject

instance (topic : Key) (fs : Fields) : Decidable (HasObject topic fs) :=
  inferInstanceAs (Decidable ((get? topic fs).all Value.isObject = true))

theorem HasObject.isObject {topic : Key} {fs : Fields} (h : HasObject topic fs) {v : Value}
    (hv : get? topic fs = some v) : v.isObject := by
  simpa [HasObject, hv] using h

theorem HasObject.overlay {topic : Key} {base top : Fields} (h : HasObject topic base)
    (htop : HasObject topic top) (hdistinct : top.Distinct) :
    HasObject topic (Fields.overlay base top) := by
  rw [HasObject, get?_overlay hdistinct]
  split
  · exact h
  next v hv => simpa using htop.isObject hv

/-- Inside a section as outside: what is laid over decides. Nothing is asked of what lies below. -/
theorem given?_overlay {topic : Key} {top : Fields} (hmapping : top.IsMapping)
    (htop : HasObject topic top) (base : Fields) (name : Key) :
    given? topic name (overlay base top) =
      match given? topic name top with
      | none => given? topic name base
      | some v => some (Value.over (given? topic name base) v) := by
  unfold given?
  rw [get?_overlay hmapping.distinct]
  cases hget : get? topic top with
  | none => rfl
  | some v =>
    cases v with
    | obj fs =>
      have hdistinct : Distinct fs := hmapping.of_get? hget fs rfl
      cases hbase : get? topic base with
      | none => cases hname : get? name fs <;> simp [Value.field?, hname]
      | some w => cases w with
        | obj gs => simpa [Value.over, Value.field?] using get?_overlay hdistinct gs name
        | _ => cases hname : get? name fs <;> simp [Value.over, Value.field?, hname]
    | _ => cases htop.isObject hget

/-- The same value, or two objects. -/
def Alike : Option Value → Option Value → Prop
  | none, none => True
  | some v, some w => v = w ∨ v.isObject ∧ w.isObject
  | _, _ => False

theorem alike_refl (v : Option Value) : Alike v v := by
  cases v with
  | none => trivial
  | some v => exact .inl rfl

/-- Laying over is choosing the upper value, up to what is merged inside objects. -/
theorem alike_given?_overlay {topic name : Key} {base top : Fields} {v w : Option Value}
    (hmapping : top.IsMapping) (hobject : HasObject topic top)
    (htop : Alike (given? topic name top) v) (hbase : Alike (given? topic name base) w) :
    Alike (given? topic name (overlay base top)) (v.or w) := by
  rw [given?_overlay hmapping hobject]
  cases hgiven : given? topic name top with
  | none =>
    cases v with
    | none => exact hbase
    | some v => simp [hgiven, Alike] at htop
  | some u =>
    cases v with
    | none => simp [hgiven, Alike] at htop
    | some v =>
      rw [hgiven] at htop
      -- Only an object takes something from below, and it stays an object.
      obtain rfl | ⟨hu, hv⟩ := htop
      · by_cases hu : u.isObject
        · exact .inr ⟨by rwa [Value.isObject_over], hu⟩
        · exact .inl (Value.over_of_not_isObject (by simpa using hu) _)
      · exact .inr ⟨by rwa [Value.isObject_over], hv⟩

/-- Layers merged in order: the last one that says something decides. -/
theorem alike_given?_foldl {topic name : Key} {layers : List Fields} {base : Fields}
    {w : Option Value} (hmapping : ∀ layer ∈ layers, layer.IsMapping)
    (hobject : ∀ layer ∈ layers, HasObject topic layer)
    (hbase : Alike (given? topic name base) w) :
    Alike (given? topic name (layers.foldl overlay base))
      ((layers.reverse.findSome? (given? topic name)).or w) := by
  induction layers generalizing base w with
  | nil => exact hbase
  | cons layer layers ih =>
    obtain ⟨hlayer, hmapping⟩ := List.forall_mem_cons.mp hmapping
    obtain ⟨hfirst, hobject⟩ := List.forall_mem_cons.mp hobject
    -- What was merged so far is the base of the next layer, with this one chosen before it.
    have hstep := alike_given?_overlay hlayer hfirst (alike_refl _) hbase
    simpa [List.findSome?_append, Option.or_assoc] using ih hmapping hobject hstep

end Fields
end RustOutline
