import RustOutline.Files
import RustOutline.Text.Literal
import RustOutline.Text.Similarity

/-! Command-line options: which are given, and what is left. -/
namespace RustOutline.Command

inductive UsageError where
  /-- The close names are those that may have been meant. -/
  | noSuchOption (name : String) (close : List String)
  | noSuchCommand (name : String) (close : List String)
  | missingCommand
  | missingArgument (name : String)
  | needsArgument (name : String)
  | takesNoValue (name : String)
  | isFolder (parameter path : String)
  /-- A path that no file can have. -/
  | unnamable
  | unexpectedArguments (args : List String)
deriving DecidableEq, Repr, Inhabited

def suggestion : List String → String
  | [] => ""
  | [name] => " Did you mean " ++ Text.literal name ++ "?"
  | names => " (Did you mean one of: " ++ ", ".intercalate (names.map Text.literal) ++ "?)"

def UsageError.message : UsageError → String
  | .noSuchOption name close =>
    "No such option " ++ Text.literal name ++ "." ++ suggestion close
  | .noSuchCommand name close =>
    "No such command " ++ Text.literal name ++ "." ++ suggestion close
  | .missingCommand => "Missing command."
  | .missingArgument name => "Missing argument '" ++ name ++ "'."
  | .needsArgument name => "Option '" ++ name ++ "' requires an argument."
  | .takesNoValue name => "Option '" ++ name ++ "' does not take a value."
  | .isFolder parameter path =>
    "Invalid value for '" ++ parameter ++ "': File " ++ Text.literal path ++ " is a directory."
  | .unnamable => OpenError.message .unnamable
  | .unexpectedArguments args =>
    "Got unexpected extra argument" ++ (if args.length == 1 then "" else "s") ++ " (" ++
      " ".intercalate args ++ ")"

structure OptionSpec (ω : Type) where
  name : String
  tag : ω
  takesValue : Bool := false

structure Given (ω : Type) where
  tag : ω
  value : Option String
deriving Inhabited

structure Scanned (ω : Type) where
  options : List (Given ω) := []
  rest : List String := []
deriving Inhabited

variable {ω : Type}

def findSpec? (specs : List (OptionSpec ω)) (name : String) : Option (OptionSpec ω) :=
  specs.find? fun s => s.name == name

def OptionSpec.isLong (s : OptionSpec ω) : Bool := decide (2 < s.name.toList.length)

def closeOptions (specs : List (OptionSpec ω)) (name : String) : List String :=
  Text.closest ((specs.filter OptionSpec.isLong).map OptionSpec.name) name

/-- One-letter flags written together. -/
def scanLetters (specs : List (OptionSpec ω)) : List Char → Except UsageError (List (Given ω))
  | [] => .ok []
  | c :: cs =>
    let name := String.ofList ['-', c]
    match findSpec? specs name with
    | none => .error (.noSuchOption name [])
    | some spec => (scanLetters specs cs).map (⟨spec.tag, none⟩ :: ·)

def splitOption (arg : String) : String × Option String :=
  let cs := arg.toList
  let name := cs.takeWhile (· != '=')
  match cs.dropWhile (· != '=') with
  | [] => (arg, none)
  | _ :: value => (String.ofList name, some (String.ofList value))

def Scanned.given (g : List (Given ω)) (s : Scanned ω) : Scanned ω :=
  { s with options := g ++ s.options }

def Scanned.argument (arg : String) (s : Scanned ω) : Scanned ω := { s with rest := arg :: s.rest }

/-- Reads arguments from left to right. `--` ends the options; so does the first other argument,
unless options may follow it. -/
def scan (specs : List (OptionSpec ω)) (mixed : Bool) : List String → Except UsageError (Scanned ω)
  | [] => .ok {}
  | arg :: rest =>
    if arg == "--" then .ok { rest }
    else if arg.toList.head? == some '-' && arg.toList.length > 1 then
      let (name, attached) := splitOption arg
      match (findSpec? specs name).filter OptionSpec.isLong with
      | some spec =>
        if spec.takesValue then
          match attached, rest with
          | some value, rest => (scan specs mixed rest).map (.given [⟨spec.tag, some value⟩])
          | none, value :: rest => (scan specs mixed rest).map (.given [⟨spec.tag, some value⟩])
          | none, [] => .error (.needsArgument spec.name)
        else if attached.isSome then .error (.takesNoValue spec.name)
        else (scan specs mixed rest).map (.given [⟨spec.tag, none⟩])
      | none =>
        if "--".toList.isPrefixOf arg.toList then
          .error (.noSuchOption name (closeOptions specs name))
        else match scanLetters specs (arg.toList.drop 1) with
          | .error e => .error e
          | .ok flags => (scan specs mixed rest).map (.given flags)
    else if mixed then (scan specs mixed rest).map (.argument arg)
    else .ok { rest := arg :: rest }

end RustOutline.Command
