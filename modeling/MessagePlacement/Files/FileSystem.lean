import MessagePlacement.Files.Path

/-!
# The file system

A `FileSystem` is a list of the files and directories below the root, each at the list of
segments that leads to it, and the location of the working directory.  Paths are resolved
segment by segment: two dots lead to the directory above, and every segment but the last
must be an existing directory.  Reading and writing fail with the `FileError` that
resolution meets first; `makeDirectories` makes a directory and those above it, and
returns the files as they are where it stops.
-/

namespace MessagePlacement

/-- Why a file operation fails. -/
inductive FileError where
  | notFound
  | alreadyExists
  | notADirectory
  | isADirectory
  | nameTooLong
  | embeddedNul
  deriving DecidableEq, Repr

/-- What is at a location. -/
inductive FileEntry where
  | file (content : ByteArray)
  | directory

/-- Files are equal if their bytes are. -/
instance : DecidableEq FileEntry
  | .directory, .directory => isTrue rfl
  | .file a, .file b =>
    if h : a.data = b.data then isTrue (congrArg FileEntry.file (ByteArray.ext h))
    else isFalse fun e => h (by cases e; rfl)
  | .file _, .directory => isFalse nofun
  | .directory, .file _ => isFalse nofun

/-- The files and directories, and the working directory. -/
structure FileSystem where
  entries : List (List String × FileEntry)
  workingDirectory : List String
  deriving DecidableEq

/-- What a path leads to: something, or a place in a directory where nothing is. -/
inductive Spot where
  | present (location : List String)
  | absent (location : List String)
  deriving DecidableEq, Repr

namespace FileError

/-- The number of an error of the operating system. -/
def number? : FileError → Option Nat
  | .notFound => some 2
  | .alreadyExists => some 17
  | .notADirectory => some 20
  | .isADirectory => some 21
  | .nameTooLong => some 36
  | .embeddedNul => none

/-- The description of an error. -/
def description : FileError → String
  | .notFound => "No such file or directory"
  | .alreadyExists => "File exists"
  | .notADirectory => "Not a directory"
  | .isADirectory => "Is a directory"
  | .nameTooLong => "File name too long"
  | .embeddedNul => "embedded null byte"

/-- The text of an error at a path. -/
def message (e : FileError) (p : Path) : String :=
  match e.number? with
  | some n => "[Errno " ++ toString n ++ "] " ++ e.description ++ ": " ++ Text.quoted p.text
  | none => e.description

end FileError

namespace FileSystem

/-- What is at a location. -/
def entry? (fs : FileSystem) (location : List String) : Option FileEntry :=
  if location = [] then some .directory else fs.entries.lookup location

/-- Whether a location is a directory. -/
def isDirectoryAt (fs : FileSystem) (location : List String) : Bool :=
  fs.entry? location == some .directory

/-- What the segments of a path lead to from a location. -/
def walk (fs : FileSystem) : List String → List String → Except FileError Spot
  | here, [] => .ok (.present here)
  | here, s :: ss =>
    if !fs.isDirectoryAt here then .error .notADirectory
    else if s = ".." then fs.walk here.dropLast ss
    else if 255 < s.utf8ByteSize then .error .nameTooLong
    else
      match fs.entry? (here ++ [s]), ss with
      | some _, ss => fs.walk (here ++ [s]) ss
      | none, [] => .ok (.absent (here ++ [s]))
      | none, _ => .error .notFound

/-- What a path leads to. -/
def resolve (fs : FileSystem) (p : Path) : Except FileError Spot :=
  if p.text.toList.contains '\x00' then .error .embeddedNul
  else if 4095 < p.text.utf8ByteSize then .error .nameTooLong
  else fs.walk (if p.isAbsolute then [] else fs.workingDirectory) p.segments

/-- The content of a file. -/
def read (fs : FileSystem) (p : Path) : Except FileError ByteArray := do
  match ← fs.resolve p with
  | .absent _ => .error .notFound
  | .present location =>
    match fs.entry? location with
    | some (.file content) => .ok content
    | _ => .error .isADirectory

/-- Whether a path leads to something.  Only a name that is too long keeps this from
being told. -/
def isPresent (fs : FileSystem) (p : Path) : Except FileError Bool :=
  match fs.resolve p with
  | .ok (.present _) => .ok true
  | .ok (.absent _) => .ok false
  | .error .nameTooLong => .error .nameTooLong
  | .error _ => .ok false

/-- Whether a path leads to a directory. -/
def isDirectory (fs : FileSystem) (p : Path) : Bool :=
  match fs.resolve p with
  | .ok (.present location) => fs.isDirectoryAt location
  | _ => false

/-- A list with the entry of a location set, in its place or at the end. -/
def setEntry (location : List String) (e : FileEntry) :
    List (List String × FileEntry) → List (List String × FileEntry)
  | [] => [(location, e)]
  | (l, old) :: rest =>
    if l = location then (l, e) :: rest else (l, old) :: setEntry location e rest

/-- The files with an entry at a location. -/
def set (fs : FileSystem) (location : List String) (e : FileEntry) : FileSystem :=
  { fs with entries := setEntry location e fs.entries }

/-- The files with a new directory. -/
def makeDirectory (fs : FileSystem) (p : Path) : Except FileError FileSystem := do
  match ← fs.resolve p with
  | .present _ => .error .alreadyExists
  | .absent location => .ok (fs.set location .directory)

/-- The outcome of making a directory that may exist already. -/
def acceptExisting (fs : FileSystem) (p : Path) (e : FileError) : FileSystem × Except FileError Unit :=
  if e ≠ .embeddedNul ∧ fs.isDirectory p then (fs, .ok ()) else (fs, .error e)

/-- The files with a directory and those above it, the path given by its segments in
reverse. -/
def makeAbove (fs : FileSystem) (root : String) : List String → FileSystem × Except FileError Unit
  | [] =>
    match fs.makeDirectory ⟨root, []⟩ with
    | .ok fs' => (fs', .ok ())
    | .error .notFound => (fs, .error .notFound)
    | .error e => fs.acceptExisting ⟨root, []⟩ e
  | s :: above =>
    let p : Path := ⟨root, (s :: above).reverse⟩
    match fs.makeDirectory p with
    | .ok fs' => (fs', .ok ())
    | .error .notFound =>
      match fs.makeAbove root above with
      | (fs', .error e) => (fs', .error e)
      | (fs', .ok ()) =>
        match fs'.makeDirectory p with
        | .ok fs'' => (fs'', .ok ())
        | .error .notFound => (fs', .error .notFound)
        | .error e => fs'.acceptExisting p e
    | .error e => fs.acceptExisting p e

/-- The files with a directory and those above it, which may exist already. -/
def makeDirectories (fs : FileSystem) (p : Path) : FileSystem × Except FileError Unit :=
  fs.makeAbove p.root p.segments.reverse

/-- The files with the content of a file set. -/
def write (fs : FileSystem) (p : Path) (content : ByteArray) : Except FileError FileSystem := do
  match ← fs.resolve p with
  | .absent location => .ok (fs.set location (.file content))
  | .present location =>
    if fs.isDirectoryAt location then .error .isADirectory
    else .ok (fs.set location (.file content))

/-- The files with the content of a file set, below directories that are made as needed. -/
def writeBelow (fs : FileSystem) (p : Path) (content : ByteArray) :
    FileSystem × Except FileError Unit :=
  match fs.makeDirectories p.parent with
  | (fs', .error e) => (fs', .error e)
  | (fs', .ok ()) =>
    match fs'.write p content with
    | .ok fs'' => (fs'', .ok ())
    | .error e => (fs', .error e)

/-- What is there that was not there before. -/
def changes (fs before : FileSystem) : List (List String × FileEntry) :=
  fs.entries.filter fun (location, e) => before.entry? location != some e

end FileSystem

end MessagePlacement
