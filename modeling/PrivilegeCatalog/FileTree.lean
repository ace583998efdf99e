import PrivilegeCatalog.Encoding
import PrivilegeCatalog.FilePath

/-!
# Trees of files

Folders hold files and folders by name. A position is the sequence of names from the top to a file
or a folder. `Workspace.look` follows a path step by step, so that every name but the last has to
be that of a folder, also before double dots.
-/

namespace PrivilegeCatalog

/-- A file with its content, or a folder with what it holds. -/
inductive FileTree
  | file (content : Bytes)
  | folder (entries : List (String × FileTree))
  deriving Inhabited

/-- Names from the top of a tree to a place in it. -/
abbrev Position := List String

namespace FileTree

/-- What a folder holds under a name. -/
def child? (name : String) : FileTree → Option FileTree
  | folder entries => (entries.find? (·.1 == name)).map (·.2)
  | file _ => none

/-- What is at a position. -/
def find? (t : FileTree) : Position → Option FileTree
  | [] => some t
  | name :: rest => (t.child? name).bind (·.find? rest)

/-- The entries of a folder with another under a name. -/
def putEntry (name : String) (node : FileTree) :
    List (String × FileTree) → List (String × FileTree)
  | [] => [(name, node)]
  | (other, old) :: rest =>
    if other == name then (name, node) :: rest else (other, old) :: putEntry name node rest

/-- The tree with a file or a folder at a position; folders on the way are made. -/
def put : FileTree → Position → FileTree → FileTree
  | _, [], node => node
  | t, name :: rest, node =>
    let entries := match t with
      | folder entries => entries
      | file _ => []
    folder (putEntry name (((t.child? name).getD (folder [])).put rest node) entries)

end FileTree

/-- What is found at the end of a path. A path is blocked when it leads on from a file. -/
inductive Look
  | found (position : Position) (node : FileTree)
  | missing
  | blocked

/-- All files, the folder in which one works, and what a path from the top starts with when it is
told. -/
structure Workspace where
  tree : FileTree
  folder : Position
  top : String := "/"

namespace Workspace

/-- Follows steps from a position. -/
def follow (w : Workspace) (position : Position) : List String → Look
  | [] =>
    match w.tree.find? position with
    | some node => .found position node
    | none => .missing
  | step :: rest =>
    match w.tree.find? position with
    | some (.folder _) =>
      let next :=
        if FilePath.isIdle step then position
        else if step = FilePath.above then position.dropLast
        else position ++ [step]
      w.follow next rest
    | some (.file _) => .blocked
    | none => .missing

/-- Where paths start that do or do not come from the top. -/
def start (w : Workspace) (top : Option String) : Position := if top.isSome then [] else w.folder

/-- What is at the end of a path. -/
def look (w : Workspace) (p : FilePath) : Look := w.follow (w.start p.top) p.names

/-- What a text leads to, taken as it is: a slash at its end asks for a folder, and no text leads
nowhere. -/
def lookText (w : Workspace) (text : String) : Look :=
  if text = "" then .missing
  else w.follow (w.start (FilePath.topOf text.toList)) (FilePath.steps text)

/-- The path to a position from the top. -/
def path (w : Workspace) (position : Position) : FilePath := ⟨some w.top, position⟩

/-- Whether there is a file at the end of a path. -/
def hasFile (w : Workspace) (p : FilePath) : Bool :=
  match w.look p with
  | .found _ (.file _) => true
  | _ => false

end Workspace

/-- Why a file cannot be written. -/
inductive StoreFault
  | isFolder
  | noFolder
  | throughFile
  deriving DecidableEq, Repr

/-- Where a file of some path is written: in a folder that there is, where no folder has its
name. -/
def Workspace.target (w : Workspace) (p : FilePath) : Except StoreFault Position :=
  match w.look { p with names := p.names.dropLast }, p.name? with
  | .found _ (.file _), _ | .blocked, _ => .error .throughFile
  | .missing, _ => .error .noFolder
  | .found _ (.folder _), none => .error .isFolder
  | .found folder (.folder _), some name =>
    if name = FilePath.above then .error .isFolder
    else
      match w.tree.find? (folder ++ [name]) with
      | some (.folder _) => .error .isFolder
      | _ => .ok (folder ++ [name])

end PrivilegeCatalog
