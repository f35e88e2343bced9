import Mathlib.Data.List.Basic
import RustOutline.Proofs.ModulePaths
import RustOutline.Proofs.NormalPaths

/-! Candidate files tell modules apart. What stands between the slashes of a candidate are the
enclosing modules and the module itself; only a module named `mod` could have a file that another
module has in its folder. -/
namespace RustOutline

/-- A module whose place can be read off its files: no name in it holds a slash, and it is not named
by the keyword that the file in its folder is named by. -/
structure Addressable (enclosing : List String) (name : String) : Prop where
  enclosing_plain : ∀ outer ∈ enclosing, '/' ∉ outer.toList
  name_plain : '/' ∉ name.toList
  not_keyword : name ≠ "mod"

/-- What stands between the slashes of the two candidates. -/
def candidateParts (enclosing : List String) (name : String) : List (List String) :=
  [enclosing ++ [name ++ ".rs"], enclosing ++ [name, "mod.rs"]]

theorem expectedModulePaths_eq_map (enclosing : List String) (name : String) :
    expectedModulePaths enclosing name = (candidateParts enclosing name).map ("/".intercalate ·) :=
  expectedModulePaths_eq enclosing name

theorem intercalate_slash_inj {parts parts' : List String}
    (hne : parts ≠ []) (h : ∀ part ∈ parts, '/' ∉ part.toList)
    (hne' : parts' ≠ []) (h' : ∀ part ∈ parts', '/' ∉ part.toList)
    (heq : "/".intercalate parts = "/".intercalate parts') : parts = parts' := by
  have hchars : parts.map String.toList = parts'.map String.toList := by
    rw [← Path.split_intercalate hne h, heq, Path.split_intercalate hne' h']
  exact (List.map_inj_right fun _ _ => String.toList_inj.mp).mp hchars

section Modules
variable {enclosing enclosing' : List String} {name name' : String} {parts : List String}

theorem Addressable.parts_plain (h : Addressable enclosing name)
    (hparts : parts ∈ candidateParts enclosing name) :
    parts ≠ [] ∧ ∀ part ∈ parts, '/' ∉ part.toList := by
  rcases List.mem_pair.mp hparts with rfl | rfl
  · have hfile : ∀ part ∈ [name ++ ".rs"], '/' ∉ part.toList := by simpa using h.name_plain
    exact ⟨by simp, List.forall_mem_append.mpr ⟨h.enclosing_plain, hfile⟩⟩
  · have hfolder : ∀ part ∈ [name, "mod.rs"], '/' ∉ part.toList := by simpa using h.name_plain
    exact ⟨by simp, List.forall_mem_append.mpr ⟨h.enclosing_plain, hfolder⟩⟩

/-- The file of a module has the name of the file in a folder only if the module is named `mod`. -/
theorem file_ne_folderFile (h : name ≠ "mod") :
    enclosing ++ [name ++ ".rs"] ≠ enclosing' ++ [name', "mod.rs"] := by
  intro heq
  have hsplit : enclosing ++ [name ++ ".rs"] = (enclosing' ++ [name']) ++ ["mod" ++ ".rs"] := by
    simpa using heq
  have hlast := (List.append_singleton_inj.mp hsplit).2
  exact h ((String.append_left_inj ".rs").mp hlast)

theorem eq_of_mem_candidateParts (h : name ≠ "mod") (h' : name' ≠ "mod")
    (hparts : parts ∈ candidateParts enclosing name)
    (hparts' : parts ∈ candidateParts enclosing' name') : enclosing = enclosing' ∧ name = name' := by
  rcases List.mem_pair.mp hparts with hfile | hfolder <;>
    rcases List.mem_pair.mp hparts' with hfile' | hfolder'
  · obtain ⟨henclosing, hlast⟩ := List.append_singleton_inj.mp (hfile.symm.trans hfile')
    exact ⟨henclosing, (String.append_left_inj ".rs").mp hlast⟩
  · exact absurd (hfile.symm.trans hfolder') (file_ne_folderFile h)
  · exact absurd (hfile'.symm.trans hfolder) (file_ne_folderFile h')
  · obtain ⟨henclosing, hnames⟩ := List.append_inj' (hfolder.symm.trans hfolder') rfl
    exact ⟨henclosing, (List.cons.inj hnames).1⟩

end Modules

/-- Modules that can be read off their files share a candidate only if they are the same module; and
the two candidates of a module are never one file, whatever its name is. -/
theorem candidates_identify_module :
    (∀ (enclosing enclosing' : List String) (name name' : String),
      Addressable enclosing name → Addressable enclosing' name' →
      ((∃ path ∈ expectedModulePaths enclosing name, path ∈ expectedModulePaths enclosing' name') ↔
        enclosing = enclosing' ∧ name = name')) ∧
    ∀ (enclosing : List String) (name : String), ∃ file folderFile,
      expectedModulePaths enclosing name = [file, folderFile] ∧ file ≠ folderFile := by
  refine ⟨fun enclosing enclosing' name name' h h' => ⟨?_, ?_⟩, fun enclosing name => ?_⟩
  · rintro ⟨path, hpath, hpath'⟩
    rw [expectedModulePaths_eq_map] at hpath hpath'
    obtain ⟨parts, hparts, rfl⟩ := List.mem_map.mp hpath
    obtain ⟨parts', hparts', hsame⟩ := List.mem_map.mp hpath'
    obtain ⟨hne, hplain⟩ := h.parts_plain hparts
    obtain ⟨hne', hplain'⟩ := h'.parts_plain hparts'
    obtain rfl := intercalate_slash_inj hne' hplain' hne hplain hsame
    exact eq_of_mem_candidateParts h.not_keyword h'.not_keyword hparts hparts'
  · rintro ⟨rfl, rfl⟩
    exact ⟨_, List.mem_cons_self, List.mem_cons_self⟩
  · refine ⟨_, _, rfl, fun hsame => ?_⟩
    rw [String.append_assoc, String.append_assoc, String.append_right_inj, String.append_right_inj]
      at hsame
    exact absurd hsame (by decide)

-- The file in the folder of `a` is also the file of a module `mod` inside `a`.
example : "a/mod.rs" ∈ expectedModulePaths [] "a" ∧ "a/mod.rs" ∈ expectedModulePaths ["a"] "mod" := by
  decide

/-- The file of `b` in `a` is named as the folder of `b.rs` in `a` is; still they share no file. -/
theorem similar_modules_apart :
    Addressable ["a"] "b" ∧ Addressable ["a"] "b.rs" ∧
      expectedModulePaths ["a"] "b" = ["a/b.rs", "a/b/mod.rs"] ∧
      expectedModulePaths ["a"] "b.rs" = ["a/b.rs.rs", "a/b.rs/mod.rs"] ∧
      ¬ ∃ path ∈ expectedModulePaths ["a"] "b", path ∈ expectedModulePaths ["a"] "b.rs" := by
  have hshort : Addressable ["a"] "b" := ⟨by decide, by decide, by decide⟩
  have hlong : Addressable ["a"] "b.rs" := ⟨by decide, by decide, by decide⟩
  obtain ⟨hidentify, -⟩ := candidates_identify_module
  refine ⟨hshort, hlong, by decide, by decide, fun hshared => ?_⟩
  have hname := ((hidentify _ _ _ _ hshort hlong).mp hshared).2
  exact absurd hname (by decide)

end RustOutline
