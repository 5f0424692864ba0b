import MessagePlacement.CommandLine.Inputs

/-!
# The program

The arguments, the files that they lead to and the environment are read, the command is run
on them, and what it changed is written back.
-/

namespace MessagePlacement

namespace Program

/-- What is at a path. -/
def entryAt (p : Path) : IO (Option FileEntry) := do
  match ← (IO.FS.readBinFile p.text).toBaseIO with
  | .ok content => return some (.file content)
  | .error (.noFileOrDirectory ..) => return none
  | .error _ => return some .directory

/-- The known files with what is at a path. -/
def look (fs : FileSystem) (p : Path) : IO FileSystem := do
  match fs.resolve p with
  | .ok (.absent location) =>
    match ← entryAt p with
    | some e => return fs.set location e
    | none => return fs
  | _ => return fs

/-- The known files with what is on the way to a path and at it. -/
def lookAlong (fs : FileSystem) (p : Path) : IO FileSystem :=
  p.stages.foldlM look fs

/-- The variables that are set, of those that count. -/
def environment : IO (List (String × String)) := do
  let found ← CommandLine.variableNames.mapM fun name => do
    return (← IO.getEnv name).map (name, ·)
  return found.filterMap id

/-- What is known once the paths that a run looks at have been followed. -/
def follow (s : CommandLine.Surroundings) (arguments : List String) :
    IO CommandLine.Surroundings := do
  return { s with files := ← (CommandLine.inputs s arguments).foldlM lookAlong s.files }

/-- What is at a location, written. -/
def put : List String × FileEntry → IO Unit
  | (location, .file content) => IO.FS.writeBinFile (Path.text ⟨"/", location⟩) content
  | (location, .directory) => IO.FS.createDirAll (Path.text ⟨"/", location⟩)

end Program

end MessagePlacement

open MessagePlacement in
/-- Runs the program. -/
def main (arguments : List String) : IO UInt32 := do
  let here := Path.ofText (← IO.currentDir).toString
  let files ← Program.lookAlong ⟨[], here.segments⟩ here
  let start ← Program.follow { files, env := ← Program.environment } arguments
  let known ← Program.follow start arguments
  let (after, ending) := CommandLine.run known arguments
  (after.changes known.files).forM Program.put
  (← IO.getStdout).putStr ending.output
  (← IO.getStderr).putStr ending.complaint
  return ending.exitCode.toUInt32
