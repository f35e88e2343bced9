import RustOutline.Json.Reader
import RustOutline.Settings.Merge
import RustOutline.Settings.Validation
import RustOutline.Text.LowerCase

/-! Settings in environment variables. Of pydantic-settings, which reads them, this is assumed:
names count in any case, and of two that are alike the later one; `RUSTSYMS__SECTION` holds a
section as JSON, and null is no section; `RUSTSYMS__SECTION__KEY` holds one of its fields, as JSON
if the field is a list and as text otherwise; such fields go into a section that is an object, at
any depth, and are dropped from any other; the first section that is no JSON ends the reading. -/
namespace RustOutline

abbrev Environment := List (String × String)

namespace Environment

def get? (env : Environment) (name : String) : Option String := env.lookup name

def set (env : Environment) (name value : String) : Environment :=
  if (env.lookup name).isSome then
    env.map fun (k, v) => if k == name then (k, value) else (k, v)
  else env ++ [(name, value)]

def unset (env : Environment) (name : String) : Environment := env.filter fun (k, _) => k != name

/-- Names in lower case; of two names that become one the later value counts. -/
def folded (env : Environment) : Environment :=
  env.foldl (fun acc (k, v) => acc.set (Text.lower k) v) []

def splitName : List Char → List (List Char)
  | [] => [[]]
  | '_' :: '_' :: cs => [] :: splitName cs
  | c :: cs => match splitName cs with
    | [] => [[c]]
    | part :: rest => (c :: part) :: rest

/-- Sets the field at the end of a path. A path through something that is no object is dropped. -/
def insertAt (value : Value) : List String → Fields → Fields
  | [], fs => fs
  | [k], fs => Fields.put k value fs
  | k :: ks, fs => match Fields.get? k fs with
    | none => Fields.put k (.obj (insertAt value ks [])) fs
    | some (.obj inner) => Fields.put k (.obj (insertAt value ks inner)) fs
    | some _ => fs

/-- The value of a nested variable: a text, except that log outputs are JSON. -/
def nestedValue? (topic : String) (path : List String) (text : String) : Option Value :=
  if topic == "logging" && path == ["outputs"] && text != "" then Json.read Json.relaxed text
  else some (.str text)

def nestedFields? (topic : String) (start : List Char) :
    Environment → Fields → Option Fields
  | [], fs => some fs
  | (name, text) :: rest, fs =>
    if start.isPrefixOf name.toList then
      let path := (splitName (name.toList.drop start.length)).map String.ofList
      match nestedValue? topic path text with
      | none => none
      | some v => nestedFields? topic start rest (insertAt v path fs)
    else nestedFields? topic start rest fs

def sectionFields (topic : String) : List String :=
  match topic with
  | "logging" => ["level", "outputs"]
  | "extract" => ["include_private", "edition"]
  | "telemetry" => ["enabled", "otlp_endpoint", "service_name"]
  | _ => []

/-- Field names of a section count in any case; of two spellings of one name the later counts. -/
def canonicalFields (topic : String) (fs : Fields) : Fields :=
  fs.foldl (fun acc (k, v) =>
    let name := k.text?.map Text.lower
    let known := name.filter fun name => (sectionFields topic).contains name
    Fields.put (known.elim k Key.text) v acc) []

/-- What the environment says about a section: `none` if a value is no JSON, `some none` if
nothing. Nested variables change a section given as an object, and nothing else. -/
def section? (env : Environment) (name : String) : Option (Option Value) :=
  let root := "rustsyms__" ++ name
  match env.get? root with
  | none => (nestedFields? name (root ++ "__").toList env []).map fun fs =>
      if fs.isEmpty then none else some (.obj fs)
  | some text => match Json.read Json.relaxed text with
    | none => none
    | some .null => some none
    | some (.obj fs) => (nestedFields? name (root ++ "__").toList env []).map fun nested =>
        some (.obj (canonicalFields name (Fields.overlay fs nested)))
    | some v => some (some v)

/-- The sections that an environment sets, or the first one that cannot be read. -/
def settings (env : Environment) : Except String Fields :=
  let env := env.folded
  Settings.sections.foldlM (fun fs name =>
    match env.section? name with
    | none => .error name
    | some none => .ok fs
    | some (some v) => .ok (Fields.put name v fs)) []

end Environment
end RustOutline
