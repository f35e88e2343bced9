import RustOutline.Failure
import RustOutline.Path
import RustOutline.Utf8

namespace RustOutline

inductive Entry where
  | file (bytes : Utf8.Bytes)
  | folder
deriving DecidableEq, Repr, Inhabited

inductive Found where
  | file (bytes : Utf8.Bytes)
  | folder
  | nothing
  /-- The path goes on below a file. -/
  | blocked
  | tooLong
deriving DecidableEq, Repr, Inhabited

/-- Files and folders by their components from the root; relative paths start at the working
folder. -/
structure Files where
  here : List String := []
  entries : List (List String × Entry) := []
deriving Inhabited

inductive OpenError where
  | missing (path : String)
  | taken (path : String)
  | notFolder (path : String)
  | isFolder (path : String)
  | tooLong (path : String)
  /-- No file can have such a name. -/
  | unnamable
deriving DecidableEq, Repr, Inhabited

def OpenError.raised : OpenError → Raised
  | .missing path =>
    { kind := "FileNotFoundError"
      message := "[Errno 2] No such file or directory: " ++ Text.literal path }
  | .taken path =>
    { kind := "FileExistsError", message := "[Errno 17] File exists: " ++ Text.literal path }
  | .notFolder path =>
    { kind := "NotADirectoryError", message := "[Errno 20] Not a directory: " ++ Text.literal path }
  | .isFolder path =>
    { kind := "IsADirectoryError", message := "[Errno 21] Is a directory: " ++ Text.literal path }
  | .tooLong path =>
    { kind := "OSError", message := "[Errno 36] File name too long: " ++ Text.literal path }
  | .unnamable => .valueError "embedded null byte"

def OpenError.message (e : OpenError) : String := e.raised.message

namespace Files

def mostPartBytes : Nat := 255
def mostPathBytes : Nat := 4095

def base (files : Files) (p : Path) : List String := if p.isAbsolute then [] else files.here

def ofNames (here : List String) (entries : List (String × Entry)) : Files :=
  let files : Files := { here }
  { files with entries := entries.map fun (name, entry) =>
      let p := Path.ofText name
      (files.base p ++ p.parts, entry) }

/-- What stands at a place; a folder exists if something stands in it. -/
def lookup (files : Files) (place : List String) : Found :=
  match files.entries.lookup place with
  | some (.file bytes) => .file bytes
  | some .folder => .folder
  | none =>
    if (files.here :: files.entries.map Prod.fst).any place.isPrefixOf then .folder else .nothing

/-- Follows components one by one; `..` leads to the folder around. -/
def follow (files : Files) (place : List String) : List String → Found
  | [] => files.lookup place
  | part :: rest =>
    match files.lookup place with
    | .folder =>
      if mostPartBytes < part.utf8ByteSize then .tooLong
      else files.follow (if part == ".." then place.dropLast else place ++ [part]) rest
    | .nothing => .nothing
    | _ => .blocked

def isNamable (path : String) : Bool := !path.toList.contains '\x00'

/-- What stands at a path as it was written. A final slash asks for a folder. -/
def find (files : Files) (path : String) : Found :=
  if path == "" || !isNamable path then .nothing
  else if mostPathBytes < path.utf8ByteSize then .tooLong
  else
    let p := Path.ofText path
    let final := (Path.split path.toList).getLast?
    match files.follow (files.base p) p.parts with
    | .file bytes => if final == some [] || final == some ['.'] then .blocked else .file bytes
    | found => found

def read (files : Files) (path : String) : Except OpenError Utf8.Bytes :=
  match files.find path with
  | .file bytes => .ok bytes
  | .nothing => .error (.missing path)
  | .blocked => .error (.notFolder path)
  | .folder => .error (.isFolder path)
  | .tooLong => .error (.tooLong path)

def add (files : Files) (place : List String) (entry : Entry) : Files :=
  { files with entries := files.entries ++ [(place, entry)] }

/-- Goes down some components and makes the folders that are missing; the place where that ends. -/
def makeFolders (path : String) (files : Files) (place : List String) :
    List String → Except OpenError (Files × List String)
  | [] => .ok (files, place)
  | part :: rest =>
    if part == ".." then makeFolders path files place.dropLast rest
    else if mostPartBytes < part.utf8ByteSize then .error (.tooLong path)
    else
      let next := place ++ [part]
      match files.lookup next with
      | .folder => makeFolders path files next rest
      | .nothing => makeFolders path (files.add next .folder) next rest
      | _ => .error (if rest.isEmpty then .taken path else .notFolder path)

/-- Opens a file to which lines are added. The folders on the way and the file itself are made if
they are missing. -/
def openForLines (files : Files) (path : String) : Except OpenError Files :=
  let p := Path.ofText path
  let final := p.place.text
  if !isNamable path then .error .unnamable
  else match p.parts.getLast? with
    | none => .error (.isFolder final)
    | some name => do
      let folder : Path := { p with parts := p.parts.dropLast }
      let (files, place) ← files.makeFolders folder.text (files.base p) folder.parts
      if mostPathBytes < final.utf8ByteSize then throw (.tooLong final)
      match files.follow place [name] with
      | .file _ => return files
      | .nothing => return files.add (place ++ [name]) (.file [])
      | .folder => throw (.isFolder final)
      | .blocked => throw (.notFolder final)
      | .tooLong => throw (.tooLong final)

def openAll (files : Files) : List String → Files × List String × Option OpenError
  | [] => (files, [], none)
  | path :: rest =>
    match files.openForLines path with
    | .error e => (files, [], some e)
    | .ok files =>
      let (files, opened, error) := files.openAll rest
      (files, path :: opened, error)

end Files
end RustOutline
