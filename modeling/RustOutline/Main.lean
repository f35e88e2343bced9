import RustOutline.Command.Run
import RustOutline.Tree.Dump
import RustOutline.Yaml.Reader

/-! The program. It has no parser of its own: the syntax tree of the file that is to be outlined
comes in on the standard input, as a parser dumps it. -/
namespace RustOutline.Program

def readEntry (name : String) : IO (Option Entry) := do
  try
    return some (.file (← IO.FS.readBinFile name).toList)
  catch
    | .inappropriateType _ 21 _ => return some .folder
    | _ => return none

/-- Of all files only those that the arguments or the settings can mean. -/
def readFiles (names : List String) : IO Files := do
  let entries ← names.filterMapM fun name => return (← readEntry name).map fun e => (name, e)
  return .ofNames (Path.ofText (← IO.currentDir).toString).parts entries

def variableNames : List String :=
  let sections := Settings.sections.flatMap fun topic =>
    topic :: (Environment.sectionFields topic).map fun name => topic ++ "__" ++ name
  sections.map (fun name => Text.upper ("rustsyms__" ++ name)) ++
    [Tracing.endpointVariable, Tracing.serviceVariable]

def readEnvironment : IO Environment :=
  variableNames.filterMapM fun name => return (← IO.getEnv name).map fun value => (name, value)

/-- The tree on the standard input; only one command needs it. -/
def readTree (args : List String) : IO (Except Failure Node) := do
  if !args.contains "parse" then return .ok default
  let text ← (← IO.getStdin).readToEnd
  return match (Json.read Json.relaxed text).bind Node.ofValue? with
    | some root => .ok root
    | none => .error (.grammar "no syntax tree on the standard input")

def freshId : IO String := do
  return String.ofList (Text.hex 12 (← IO.rand 0 0xFFFFFFFFFFFF))

/-- The home folders of the accounts in a user database, a line of seven parts for each. -/
def accounts (database : String) (name : String) : Option String :=
  (database.splitOn "\n").findSome? fun line => match line.splitOn ":" with
    | [user, _, _, _, _, folder, _] => if user == name then some folder else none
    | _ => none

def readHomes : IO Homes := do
  let own := (← IO.getEnv "HOME").getD "/"
  let database ← try IO.FS.readFile "/etc/passwd" catch _ => pure ""
  return { own, account := accounts database }

def appendLines (path : String) (lines : List Log.Line) : IO Unit := do
  let p := Path.ofText path
  IO.FS.createDirAll { p with parts := p.parts.dropLast }.text
  let handle ← IO.FS.Handle.mk path .append
  for line in lines do
    handle.putStrLn line.render

def report (outcome : Command.Outcome) : IO Unit := do
  for path in outcome.opened.eraseDups do
    appendLines path (outcome.linesTo path)
  for line in outcome.linesTo "stderr" do
    IO.eprintln line.render
  IO.print outcome.stdout
  if let some complaint := outcome.complaint then IO.eprintln ("Error: " ++ complaint.message)
  if let some error := outcome.escaped then IO.eprintln error.raised.text

def run (args : List String) (root : Node) : IO UInt32 := do
  let homes ← readHomes
  let globalPath := homes.own ++ "/.config/rustsyms/config.yaml"
  let outcome := Command.run {
    files := ← readFiles (globalPath :: args)
    yaml := Yaml.reader
    environment := ← readEnvironment
    homes
    globalPath := globalPath
    parse := fun _ => root
    now := toString (← IO.monoMsNow)
    freshId := ← freshId } {} args
  report outcome
  return outcome.exitCode.toUInt32

end RustOutline.Program

def main (args : List String) : IO UInt32 := do
  match ← RustOutline.Program.readTree args with
  | .error failure =>
    IO.eprintln ("Error: " ++ failure.message)
    return 1
  | .ok root => RustOutline.Program.run args root
