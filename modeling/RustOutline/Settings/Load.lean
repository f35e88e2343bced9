import RustOutline.Failure
import RustOutline.Files
import RustOutline.Settings.Environment
import RustOutline.Yaml.Fault

/-! Loading the settings. From strong to weak: overrides, environment, explicit file, global file,
defaults. -/
namespace RustOutline

inductive LoadError where
  | failure (f : Failure)
  | environment (name : String)
  | unopened (e : OpenError)
  /-- The library that reads the files raises something of its own. -/
  | content (r : Raised)
  /-- A number that has to be shown is too long. -/
  | unwritable
  /-- The name of a section is no text. -/
  | unnamed
  | unknownHome
deriving Inhabited

def LoadError.raised : LoadError → Raised
  | .failure f => { kind := f.className, message := f.message }
  | .environment name =>
    { kind := "SettingsError"
      message :=
        "error parsing value for field \"" ++ name ++ "\" from source \"EnvSettingsSource\"" }
  | .unopened e => e.raised
  | .content r => r
  | .unwritable => .valueError (Decimal.excess "")
  | .unnamed => .typeError "keywords must be strings"
  | .unknownHome => .runtimeError (Complaint.message .unknownHome)

/-- A document without a value: only what the library itself says of it is reported. -/
def LoadError.ofProblem (path : String) : Yaml.Problem → LoadError
  | .invalid reason => .failure (.parse path reason)
  | .raised r => .content r

/-- The fields of a settings file. A file that is missing or empty has none. -/
def readLayer (yaml : Yaml.Reader) (files : Files) (path : String) : Except LoadError Fields :=
  match files.read path with
  | .error (.missing _) => .ok []
  | .error (.notFolder _) => .ok []
  | .error e => .error (.unopened e)
  | .ok bytes => match yaml.read bytes with
    | .error problem => .error (.ofProblem path problem)
    | .ok .null => .ok []
    | .ok (.obj fs) => .ok fs
    | .ok _ => .error (.failure (.parse path "top-level value must be a mapping"))

/-- Settings files merged in order; the first one that cannot be read decides the error. -/
def readLayers (yaml : Yaml.Reader) (files : Files) (paths : List String) :
    Except LoadError Fields :=
  (paths.mapM (readLayer yaml files)).map Fields.overlayAll

def Issue.loadError (i : Issue) : LoadError :=
  if i.input.isWritable then
    .failure (.invalidValue i.location.text i.input i.complaint.message)
  else .unwritable

structure Sources where
  files : Files
  yaml : Yaml.Reader
  globalPath : String
  explicitPath : Option String := none
  environment : Environment := []
  overrides : Fields := []
  homes : Homes

namespace Sources

def shown (path : String) : String := (Path.ofText path).text

/-- An explicit file has to be there, whatever it is. -/
def checkPresent (files : Files) (path : String) : Except LoadError Unit :=
  match files.find path with
  | .file _ => .ok ()
  | .folder => .ok ()
  | .tooLong => .error (.unopened (.tooLong path))
  | _ => .error (.failure (.fileNotFound path))

/-- Overrides by section. Section names count in any case; of several spellings the first counts. -/
def namedSections (overrides : Fields) : Fields :=
  let isSpelling (name : String) (k : Key) : Bool := k.text?.any fun s => Text.lower s == name
  let known := Settings.sections.filterMap fun name =>
    (overrides.find? fun (k, _) => isSpelling name k).map fun (_, v) => (Key.text name, v)
  known ++ overrides.filter fun (k, _) => !Settings.sections.any fun name => isSpelling name k

def merged (s : Sources) : Except LoadError Fields := do
  let explicit := s.explicitPath.map shown
  match explicit with
  | some path => checkPresent s.files path
  | none => pure ()
  let yaml ← readLayers s.yaml s.files (s.globalPath :: explicit.toList)
  match s.environment.settings with
  | .error name => throw (.environment name)
  | .ok env => return Fields.overlay yaml (Fields.overlay env (namedSections s.overrides))

def load (s : Sources) : Except LoadError Settings := do
  let fs ← s.merged
  if fs.any fun (k, _) => k.text?.isNone then throw .unnamed
  match Settings.checkStrict s.homes fs with
  | .ok settings => return settings
  | .error issues =>
    if issues.toList.any fun i => i.complaint == .unknownHome then throw .unknownHome
    else throw issues.first.loadError

end Sources
end RustOutline
