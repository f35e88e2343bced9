import RustOutline.Command.Usage

/-! The options of the program and of its `parse` command. Of click, which reads them, this is
assumed: the options of the program come before the command, those of the command also after its
path; of an option with a value the last one counts, and of two opposite flags too; version and help
are answered before any file is looked at; a file that is named must not be a folder. -/
namespace RustOutline.Command

inductive MainOption where
  | verbose
  | config
  | version
  | help
deriving DecidableEq, Repr, Inhabited

def mainSpecs : List (OptionSpec MainOption) := [
  ⟨"-v", .verbose, false⟩, ⟨"--verbose", .verbose, false⟩, ⟨"--config", .config, true⟩,
  ⟨"--version", .version, false⟩, ⟨"--help", .help, false⟩]

inductive ParseOption where
  | includePrivate
  | publicOnly
  | pretty
  | modules
  | help
deriving DecidableEq, Repr, Inhabited

def parseSpecs : List (OptionSpec ParseOption) := [
  ⟨"--include-private", .includePrivate, false⟩, ⟨"--public-only", .publicOnly, false⟩,
  ⟨"--pretty", .pretty, false⟩, ⟨"--modules", .modules, false⟩, ⟨"--help", .help, false⟩]

inductive Request where
  /-- Nothing was asked. -/
  | nothing
  | version
  | help
  | command (verbose : Bool) (config : Option String) (name : String) (args : List String)
deriving DecidableEq, Repr, Inhabited

def lastValue? (options : List (Given MainOption)) : Option String :=
  (options.filterMap fun g => if g.tag == .config then g.value else none).getLast?

def announcement? (options : List (Given MainOption)) : Option Request :=
  options.findSome? fun g =>
    if g.tag == .version then some .version else if g.tag == .help then some .help else none

/-- A path parameter must not be a folder; it need not exist. -/
def notFolder (files : Files) (parameter path : String) : Except UsageError Unit :=
  if !Files.isNamable path then .error .unnamable
  else if files.find path == .folder then .error (.isFolder parameter path)
  else .ok ()

def commandNames : List String := ["parse"]

def mainOptions (files : Files) (args : List String) :
    Except UsageError (Option Request × Scanned MainOption) := do
  let scanned ← scan mainSpecs false args
  let answer := announcement? scanned.options
  match answer, lastValue? scanned.options with
  | none, some path => notFolder files "--config" path
  | _, _ => pure ()
  return (answer, scanned)

/-- A command that does not exist. One that looks like an option is first taken for one. -/
def unknownCommand (files : Files) (name : String) (args : List String) :
    Except UsageError Request := do
  match ← mainOptions files (name :: args) with
  | (some answer, _) => return answer
  | (none, _) => throw (.noSuchCommand name (Text.closest commandNames name))

def request (files : Files) (args : List String) : Except UsageError Request :=
  if args.isEmpty then .ok .nothing
  else do
    match ← mainOptions files args with
    | (some answer, _) => return answer
    | (none, scanned) => match scanned.rest with
      | [] => throw .missingCommand
      | name :: rest =>
        if commandNames.contains name then
          return .command (scanned.options.any fun g => g.tag == .verbose)
            (lastValue? scanned.options) name rest
        else unknownCommand files name rest

structure ParseRequest where
  path : String
  includePrivate : Option Bool := none
  pretty : Bool := false
  modules : Bool := false
  help : Bool := false
deriving DecidableEq, Repr, Inhabited

/-- The last of the two opposite options. -/
def privateChoice? (options : List (Given ParseOption)) : Option Bool :=
  (options.filterMap fun g =>
    if g.tag == .includePrivate then some true
    else if g.tag == .publicOnly then some false
    else none).getLast?

def parseRequest (files : Files) (args : List String) : Except UsageError ParseRequest := do
  let scanned ← scan parseSpecs true args
  let has (tag : ParseOption) : Bool := scanned.options.any fun g => g.tag == tag
  if has .help then return { path := "", help := true }
  match scanned.rest with
  | [] => throw (.missingArgument "PATH")
  | path :: extra =>
    notFolder files "PATH" path
    if !extra.isEmpty then throw (.unexpectedArguments extra)
    return {
      path := (Path.ofText path).text
      includePrivate := privateChoice? scanned.options
      pretty := has .pretty
      modules := has .modules }

end RustOutline.Command
