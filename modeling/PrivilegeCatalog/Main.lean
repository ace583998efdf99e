import PrivilegeCatalog.CommandLine.Running

/-!
# The program

Takes from the disk the files that a command may look at, runs the command on them, prints what it
has to say, and stores the file that it has written.
-/

namespace PrivilegeCatalog.Main

open CommandLine

/-- The place on the disk of a position. -/
def diskPath (position : Position) : String := "/" ++ "/".intercalate position

/-- The position of the working folder. -/
def workingFolder : IO Position := do
  return (FilePath.ofText (← IO.currentDir).toString).names

/-- The position that a text leads to, without regard to what is there. -/
def positionOf (folder : Position) (text : String) : Position :=
  let path := FilePath.ofText text
  let step := fun (position : Position) (name : String) =>
    if name = FilePath.above then position.dropLast else position ++ [name]
  path.names.foldl step (if path.top.isSome then [] else folder)

/-- Takes what is at a position into a tree. -/
def take (tree : FileTree) (position : Position) : IO FileTree := do
  let disk := (← IO.currentDir) / diskPath position
  if (tree.find? position).isSome then return tree
  else if ← disk.isDir then return tree.put position (.folder [])
  else if ← disk.pathExists then
    return tree.put position (.file (← IO.FS.readBinFile disk).toList)
  else return tree

/-- Takes what is on the way to a position into a tree, and the settings that lie beside it. -/
def takeAll (tree : FileTree) (position : Position) : IO FileTree := do
  let mut tree := tree
  for n in List.range (position.length + 1) do
    tree ← take tree (position.take n)
    match tree.find? (position.take n) with
    | some (.folder _) => tree ← take tree (position.take n ++ [Settings.ownFile])
    | _ => pure ()
  return tree

/-- The files that a command names. -/
def namedFiles : Request → List String
  | .run i =>
    let output := match i.action with
      | .format (some output) => [output]
      | _ => []
    i.document :: (i.settings.toList ++ output)
  | _ => []

/-- The files that a command may look at. -/
def workspace (request : Request) : IO Workspace := do
  let folder ← workingFolder
  let mut tree ← takeAll (.folder []) folder
  for text in namedFiles request do
    tree ← takeAll tree (positionOf folder text)
  return { tree, folder }

/-- A table as lines of text. -/
def tableText (t : Table) : String :=
  let line := fun cells => "  ".intercalate cells ++ "\n"
  t.title ++ "\n" ++ String.join ((t.columns :: t.rows).map line)

/-- Runs the program with the words after its name. -/
def runProgram (words : List String) : IO UInt32 := do
  let w ← workspace (Request.ofWords words)
  let r := run w words
  match r.stored with
  | some (position, content) => IO.FS.writeBinFile (diskPath position) ⟨content.toArray⟩
  | none => pure ()
  IO.print (r.out ++ String.join (r.tables.map tableText))
  IO.eprint r.err
  if r.crash.isSome then IO.eprint "The command was broken off\n"
  return UInt32.ofNat r.exitCode

end PrivilegeCatalog.Main

/-- Runs the program and answers its exit code. -/
def main (words : List String) : IO UInt32 := PrivilegeCatalog.Main.runProgram words
