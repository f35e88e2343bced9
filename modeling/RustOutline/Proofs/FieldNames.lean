import RustOutline.Value

/-! Fields by the names that they have: what looking up and putting do to them, and fields of which
no two share a name. -/
namespace RustOutline

/-- Only a text names what a text names. -/
theorem Key.eq_text_of_ident {k : Key} {name : String} (h : k.ident = .text name) :
    k = .text name := by
  cases k with
  | real bits =>
    rw [Key.ident] at h
    split at h
    next d _ => cases hwhole : d.whole? <;> simp [hwhole] at h
    next => cases h
    next => cases h
  | _ => simp_all [Key.ident]

namespace Fields

@[simp] theorem names_nil : names [] = [] := rfl

@[simp] theorem names_cons (k : Key) (v : Value) (fs : Fields) :
    names ((k, v) :: fs) = k.ident :: names fs := rfl

@[simp] theorem names_append (fs gs : Fields) : names (fs ++ gs) = names fs ++ names gs :=
  List.map_append

theorem distinct_nil : Distinct [] := List.nodup_nil

@[simp] theorem get?_nil (name : Key) : get? name [] = none := rfl

theorem get?_cons (name k : Key) (v : Value) (fs : Fields) :
    get? name ((k, v) :: fs) = if k.ident = name.ident then some v else get? name fs := rfl

@[simp] theorem get?_cons_text (name k : String) (v : Value) (fs : Fields) :
    get? name ((.text k, v) :: fs) = if k = name then some v else get? name fs := by
  simp [get?_cons, Key.ident]

theorem get?_congr {a b : Key} (h : a.ident = b.ident) (fs : Fields) : get? a fs = get? b fs := by
  induction fs with
  | nil => rfl
  | cons f fs ih => rw [get?_cons, get?_cons, h, ih]

theorem get?_eq_none {name : Key} {fs : Fields} (h : name.ident ∉ fs.names) :
    get? name fs = none := by
  induction fs with
  | nil => rfl
  | cons f fs ih =>
    obtain ⟨hne, hmem⟩ : name.ident ≠ f.1.ident ∧ name.ident ∉ names fs := by
      simpa [names] using h
    rw [get?_cons, if_neg (Ne.symm hne), ih hmem]

theorem exists_mem_of_get? {name : Key} {fs : Fields} {v : Value} (h : get? name fs = some v) :
    ∃ k, (k, v) ∈ fs := by
  induction fs with
  | nil => cases h
  | cons f fs ih =>
    obtain ⟨k, w⟩ := f
    rw [get?_cons] at h
    split at h
    · cases h
      exact ⟨k, List.mem_cons_self⟩
    · obtain ⟨k', hmem⟩ := ih h
      exact ⟨k', List.mem_cons_of_mem _ hmem⟩

theorem get?_put (name k : Key) (v : Value) (fs : Fields) :
    get? name (put k v fs) = if k.ident = name.ident then some v else get? name fs := by
  induction fs with
  | nil => rfl
  | cons f fs ih =>
    obtain ⟨k', w⟩ := f
    by_cases hput : k'.ident = k.ident
    · by_cases hname : k.ident = name.ident <;> simp [put, get?_cons, hput, hname]
    · by_cases hname : k.ident = name.ident
      · simp [put, get?_cons, ih, hname, hname ▸ hput]
      · simp [put, get?_cons, hput, ih, hname]

theorem get?_putNew_of_ne {name k : Key} (h : k.ident ≠ name.ident) (v : Value) (fs : Fields) :
    get? name (putNew k v fs) = get? name fs := by
  unfold putNew
  split
  · rfl
  · rw [get?_put, if_neg h]

theorem mem_put {k : Key} {v : Value} {fs : Fields} {f : Key × Value} (h : f ∈ put k v fs) :
    f ∈ fs ∨ f.2 = v := by
  induction fs with
  | nil => exact .inr (by simp_all [put])
  | cons g fs ih =>
    obtain ⟨k', w⟩ := g
    rw [put] at h
    split at h
    · obtain rfl | h := List.mem_cons.mp h
      · exact .inr rfl
      · exact .inl (List.mem_cons_of_mem _ h)
    · obtain rfl | h := List.mem_cons.mp h
      · exact .inl List.mem_cons_self
      · exact (ih h).imp_left (List.mem_cons_of_mem _)

theorem put_of_not_mem {k : Key} {fs : Fields} (h : k.ident ∉ fs.names) (v : Value) :
    put k v fs = fs ++ [(k, v)] := by
  induction fs with
  | nil => rfl
  | cons f fs ih =>
    obtain ⟨hne, hmem⟩ : k.ident ≠ f.1.ident ∧ k.ident ∉ names fs := by simpa [names] using h
    simp [put, Ne.symm hne, ih hmem]

theorem names_put_of_mem {k : Key} {fs : Fields} (h : k.ident ∈ fs.names) (v : Value) :
    (put k v fs).names = fs.names := by
  induction fs with
  | nil => cases h
  | cons f fs ih =>
    obtain ⟨k', w⟩ := f
    by_cases hput : k'.ident = k.ident
    · simp [put, hput]
    · have hmem : k.ident ∈ names fs := by simpa [Ne.symm hput] using h
      simp [put, hput, ih hmem]

theorem Distinct.put {fs : Fields} (h : fs.Distinct) (k : Key) (v : Value) :
    (fs.put k v).Distinct := by
  by_cases hmem : k.ident ∈ fs.names
  · rwa [Distinct, names_put_of_mem hmem]
  · rw [Distinct, put_of_not_mem hmem, names_append, List.nodup_append]
    refine ⟨h, by simp, ?_⟩
    rintro a ha b hb rfl
    obtain rfl : a = k.ident := by simpa using hb
    exact hmem ha

theorem Distinct.foldl_put {α : Type} (key : α → Key) (value : α → Value) (xs : List α)
    {fs : Fields} (h : fs.Distinct) :
    Distinct (xs.foldl (fun acc x => Fields.put (key x) (value x) acc) fs) := by
  induction xs generalizing fs with
  | nil => exact h
  | cons x xs ih => exact ih (h.put _ _)

theorem foldl_put {seen fs : Fields} (h : (seen ++ fs).Distinct) :
    fs.foldl (fun acc f => put f.1 f.2 acc) seen = seen ++ fs := by
  induction fs generalizing seen with
  | nil => simp
  | cons f fs ih =>
    have hnew : f.1.ident ∉ names seen := by
      intro hmem
      have hdisjoint := (List.nodup_append.mp (by simpa [Distinct] using h)).2.2
      exact hdisjoint _ hmem _ List.mem_cons_self rfl
    rw [List.foldl_cons, put_of_not_mem hnew, ih (by simpa using h)]
    simp

def ofTexts (fields : List (String × Value)) : Fields := fields.map fun f => (.text f.1, f.2)

@[simp] theorem ofTexts_nil : ofTexts [] = [] := rfl

@[simp] theorem ofTexts_cons (f : String × Value) (fields : List (String × Value)) :
    ofTexts (f :: fields) = (.text f.1, f.2) :: ofTexts fields := rfl

theorem distinct_ofTexts {fields : List (String × Value)} (h : (fields.map Prod.fst).Nodup) :
    (ofTexts fields).Distinct := by
  have hnames : (ofTexts fields).names = (fields.map Prod.fst).map Key.text := by
    simp [names, ofTexts, Key.ident]
  rw [Distinct, hnames, List.nodup_iff_pairwise_ne, List.pairwise_map]
  exact (List.nodup_iff_pairwise_ne.mp h).imp fun hab hkey => hab (Key.text.inj hkey)

end Fields
end RustOutline
