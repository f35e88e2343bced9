namespace RustOutline

/-- Candidate files of a module declared inside the given inline modules. -/
def expectedModulePaths (enclosing : List String) (name : String) : List String :=
  let folder := String.join (enclosing.map (· ++ "/"))
  [folder ++ name ++ ".rs", folder ++ name ++ "/mod.rs"]

end RustOutline
