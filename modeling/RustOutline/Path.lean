namespace RustOutline

/-- The home folders of a system: that of the user of the program, and those of its accounts by
name. -/
structure Homes where
  own : String
  account : String → Option String := fun _ => none
deriving Inhabited

/-- The user of the program is named by nothing. -/
def Homes.folder? (homes : Homes) (user : String) : Option String :=
  if user == "" then some homes.own else homes.account user

/-- A path: its root, which is empty for a relative one, and its components. -/
structure Path where
  root : String
  parts : List String
deriving DecidableEq, Repr, Inhabited

namespace Path

def split : List Char → List (List Char)
  | [] => [[]]
  | c :: cs =>
    if c = '/' then [] :: split cs
    else match split cs with
      | [] => [[c]]
      | part :: rest => (c :: part) :: rest

/-- Exactly two leading slashes are kept, more count as one. -/
def rootOf (cs : List Char) : String :=
  match (cs.takeWhile (· == '/')).length with
  | 0 => ""
  | 2 => "//"
  | _ => "/"

/-- Components that name something; empty ones and `.` do not. -/
def partsOf (cs : List Char) : List String :=
  ((split cs).map String.ofList).filter fun part => part != "" && part != "."

def ofText (s : String) : Path := ⟨rootOf s.toList, partsOf s.toList⟩

def text (p : Path) : String :=
  if p.root == "" && p.parts.isEmpty then "." else p.root ++ "/".intercalate p.parts

def isAbsolute (p : Path) : Bool := p.root != ""

def trimSlashes (s : String) : String :=
  match (s.toList.reverse.dropWhile (· == '/')).reverse with
  | [] => "/"
  | cs => String.ofList cs

/-- A leading `~` stands for a home folder. A home that starts with another `~` is none. -/
def expandHome? (homes : Homes) (p : Path) : Option Path :=
  match p.root, p.parts with
  | "", first :: rest => match first.toList with
    | '~' :: user => match (homes.folder? (String.ofList user)).map trimSlashes with
      | none => none
      | some folder =>
        let h := ofText folder
        if folder.toList.head? == some '~' then none else some ⟨h.root, h.parts ++ rest⟩
    | _ => some p
  | _, _ => some p

/-- The components that are left when each `..` takes away the one before it. -/
def collapse (parts : List String) : List String :=
  (parts.foldl (fun stack part => if part == ".." then stack.drop 1 else part :: stack) []).reverse

def place (p : Path) : Path := { p with parts := collapse p.parts }

end Path
end RustOutline
