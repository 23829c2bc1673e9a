import MarkerLint.Command.Run

-- The program: it loads the directories that a run may look at, runs the command on them, prints what it says and
-- writes the files that it changed.

namespace MarkerLint

open Files

def systemPath (l : Location) : String :=
  "/" ++ "/".intercalate l

def loadContent (path : String) : IO Content := do
  let bytes ← IO.FS.readBinFile path
  match String.fromUTF8? bytes with
  | some text => return .text text.toList
  | none => return .binary bytes.toList

-- A file or a directory with all that is in it. What cannot be read is left out, and so are links.
partial def load? (path : String) : IO (Option FileTree) := do
  try
    let here ← IO.FS.realPath path
    if ← here.isDir then
      let mut entries := []
      for entry in ← here.readDir do
        let inside := here.toString ++ "/" ++ entry.fileName
        if (← IO.FS.realPath inside).toString == inside then
          if let some tree ← load? inside then
            entries := Entry.mk entry.fileName tree :: entries
      return some (.directory entries.reverse)
    else
      return some (.file (← loadContent path))
  catch _ =>
    return none

def canWrite (path : String) : IO Bool := do
  try
    let _ ← IO.FS.Handle.mk path .readWrite
    return true
  catch _ =>
    return false

def loadDisk (arguments : List String) : IO Disk := do
  let workingDirectory := Disk.locationOf [] ⟨(← IO.currentDir).toString⟩
  let locations := (Command.visitedPaths arguments).map (Disk.locationOf workingDirectory)
  let mut tree : FileTree := .directory []
  for l in locations do
    if (tree.at? l).isNone then
      if let some loaded ← load? (systemPath l) then
        tree := FileTree.graft loaded l tree
  let linted := tree.files.map (·.1) |>.filter fun l => (FilePath.mk (systemPath l)).isLintable
  let readOnly ← linted.filterM fun l => do return !(← canWrite (systemPath l))
  return { tree, workingDirectory, isWritable := fun l => !readOnly.contains l }

def saveChanges (before after : Disk) : IO Unit := do
  for (l, content) in after.tree.files do
    match content, before.tree.read? l with
    | .text new, some old =>
      if new != old then
        IO.FS.writeFile (systemPath l) (String.ofList new)
    | _, _ => pure ()

end MarkerLint

def main (arguments : List String) : IO UInt32 := do
  let disk ← MarkerLint.loadDisk arguments
  let completion := MarkerLint.Command.run arguments disk
  MarkerLint.saveChanges disk completion.disk
  IO.print completion.output
  for notice in completion.notices do
    IO.eprintln notice.message
  return completion.exitCode.toUInt32
