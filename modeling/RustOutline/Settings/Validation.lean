import RustOutline.Decimal.Binary
import RustOutline.Path
import RustOutline.Settings.Basic
import RustOutline.Settings.Issue
import RustOutline.Text.Search

/-! Settings read from values. Of pydantic, which runs the checks, this is assumed: fields are
checked in their order and elements of a list one by one, and every issue is kept; an absent field
has its default as it stands; unknown fields inside a section do not count; a text or a list is
taken from nothing else; a choice is compared as it is; a truth value is also one of twelve words in
any case, or zero or one as a number; what a function of the settings refuses is one issue at its
field, and anything else that it raises ends the whole check. -/
namespace RustOutline
open Check

def checkName {α : Type} (all : List α) (name : α → String) (loc : Location) (v : Value) :
    Check α :=
  let refuse := fail loc (.notOneOf (all.map name)) v
  match v with
  | .str s => match all.find? fun a => name a == s with
    | some a => .ok a
    | none => refuse
  | _ => refuse

/-- A level name in any spelling; what is reported is the canonical spelling. -/
def checkLevel (loc : Location) (v : Value) : Check Level :=
  checkName Level.all Level.name loc (match v with
    | .str s => .str (Level.normalize s)
    | v => v)

def checkOptionalLevel (loc : Location) (v : Value) : Check (Option Level) :=
  if v.isNull then .ok none else (checkLevel loc v).map some

def checkText (loc : Location) (v : Value) : Check String :=
  match v with
  | .str s => .ok s
  | v => fail loc .notText v

def lowerAscii (s : String) : String := String.ofList (s.toList.map Char.toLower)

def boolOfWord? (s : String) : Option Bool :=
  let w := lowerAscii s
  if ["1", "on", "t", "true", "y", "yes"].contains w then some true
  else if ["0", "off", "f", "false", "n", "no"].contains w then some false
  else none

def fitsWord (n : Int) : Bool := Int64.minValue.toInt ≤ n && n ≤ Int64.maxValue.toInt

def checkBit (loc : Location) (v : Value) (n : Int) : Check Bool :=
  if n = 0 then .ok false
  else if n = 1 then .ok true
  else fail loc (if fitsWord n then .unknownBool else .notBool) v

/-- The number lies strictly between the bounds of 64 bits, as a double has to. -/
def insideWord (n : Int) : Bool := Int64.minValue.toInt < n && n < Int64.maxValue.toInt

def checkBool (loc : Location) (v : Value) : Check Bool :=
  match v with
  | .bool b => .ok b
  | .int n => checkBit loc v n
  | .real x => match Decimal.whole? x with
    | some n => if insideWord n then checkBit loc v n else fail loc .notBool v
    | none => fail loc .notBool v
  | .str s => match boolOfWord? s with
    | some b => .ok b
    | none => fail loc .unknownBool v
  | _ => fail loc .notBool v

/-- A standard stream, or a path that is absolute once `~` is replaced, in normal form. -/
def checkDestination (homes : Homes) (loc : Location) (v : Value) : Check String :=
  match v with
  | .str s =>
    if s == "stderr" || s == "stdout" then .ok s
    else match (Path.ofText s).expandHome? homes with
      | none => fail loc .unknownHome v
      | some path =>
        if path.isAbsolute then .ok path.text
        else fail loc (.rejected ("File destination must be absolute path: " ++ s)) v
  | v => fail loc .notText v

def checkEdition (loc : Location) (v : Value) : Check Edition :=
  match v with
  | .int n =>
    if Decimal.isWritable n then checkName Edition.all Edition.name loc (.str (toString n))
    else fail loc (.rejected (Decimal.excess "")) v
  | v => checkName Edition.all Edition.name loc v

def isEndpoint (s : String) : Bool := Text.startsWith "http://" s || Text.startsWith "https://" s

def checkEndpoint (loc : Location) (v : Value) : Check (Option String) :=
  match v with
  | .null => .ok none
  | .str s =>
    if isEndpoint s then .ok (some s)
    else fail loc (.rejected ("OTLP endpoint must start with http:// or https://: " ++ s)) v
  | v => fail loc .notText v

def LogOutput.check (homes : Homes) (loc : Location) (v : Value) : Check LogOutput :=
  match v with
  | .obj fs =>
    ((field fs loc "format" .console (checkName LogFormat.all LogFormat.name)).both
      ((field fs loc "destination" "stderr" (checkDestination homes)).both
        (field fs loc "level" none checkOptionalLevel))).map
      fun (format, destination, level) => { format, destination, level }
  | v => fail loc (.notObject "LogOutputConfig") v

def checkOutputs (homes : Homes) (loc : Location) (v : Value) : Check (List LogOutput) :=
  match v with
  | .arr vs => items loc (LogOutput.check homes) 0 vs
  | v => fail loc .notList v

def LoggingSettings.check (homes : Homes) (loc : Location) (v : Value) : Check LoggingSettings :=
  match v with
  | .obj fs =>
    ((field fs loc "level" .warning checkLevel).both
      (field fs loc "outputs" [{}] (checkOutputs homes))).map
      fun (level, outputs) => { level, outputs }
  | v => fail loc (.notObject "LoggingConfig") v

def ExtractSettings.check (loc : Location) (v : Value) : Check ExtractSettings :=
  match v with
  | .obj fs =>
    ((field fs loc "include_private" false checkBool).both
      (field fs loc "edition" .e2024 checkEdition)).map
      fun (includePrivate, edition) => { includePrivate, edition }
  | v => fail loc (.notObject "ExtractConfig") v

def TelemetrySettings.check (loc : Location) (v : Value) : Check TelemetrySettings :=
  match v with
  | .obj fs =>
    ((field fs loc "enabled" false checkBool).both
      ((field fs loc "otlp_endpoint" none checkEndpoint).both
        (field fs loc "service_name" "rustsyms" checkText))).map
      fun (enabled, otlpEndpoint, serviceName) => { enabled, otlpEndpoint, serviceName }
  | v => fail loc (.notObject "TelemetryConfig") v

def Settings.checkFields (homes : Homes) (loc : Location) (fs : Fields) : Check Settings :=
  ((field fs loc "logging" {} (LoggingSettings.check homes)).both
    ((field fs loc "extract" {} ExtractSettings.check).both
      (field fs loc "telemetry" {} TelemetrySettings.check))).map
    fun (logging, extract, telemetry) => { logging, extract, telemetry }

def Settings.check (homes : Homes) (loc : Location) (v : Value) : Check Settings :=
  match v with
  | .obj fs => checkFields homes loc fs
  | v => fail loc (.notObject "RustSymsConfig") v

def Settings.sections : List String := ["logging", "extract", "telemetry"]

def Settings.unexpected (fs : Fields) : List Issue :=
  ((Fields.named fs).filter fun (k, _) => !sections.contains k).map fun (k, v) =>
    ⟨[.key k], .unexpected, v⟩

/-- Settings from fields that may only be sections. -/
def Settings.checkStrict (homes : Homes) (fs : Fields) : Check Settings :=
  let extra : Check Unit := match unexpected fs with
    | [] => .ok ()
    | first :: rest => .error ⟨first, rest⟩
  ((checkFields homes [] fs).both extra).map Prod.fst

end RustOutline
