import MessagePlacement.Declaration
import MessagePlacement.Json.Reader
import MessagePlacement.LayoutError
import MessagePlacement.Libraries
import MessagePlacement.Yaml.Denotation

/-!
# Loading declarations

`Loading.load` reads a file of declarations, in JSON if its name ends so and in YAML
otherwise.  The document is a list of declarations or a mapping with such a list under
`declarations`.  Either all declarations of the file are loaded or none: a `LoadError`
names the file and the first cause that was met.  The file may be one of another storage, and
a path that leads nowhere is a fault.
-/

namespace MessagePlacement

/-- Why declarations cannot be loaded. -/
inductive LoadCause where
  | file (e : FileError) (p : Path)
  | unavailable (message : String)
  | undecodable
  | malformedJson
  | malformedYaml
  | invalidValue (message : String)
  | notAList
  | invalid (issues : List Issue)
  deriving DecidableEq, Repr

/-- The refusal of a file of declarations. -/
structure LoadError where
  source : String
  cause : LoadCause
  deriving DecidableEq, Repr

/-- The text of a cause, where the cause has one of its own. -/
def LoadCause.message? : LoadCause → Option String
  | .file .embeddedNul _ => none
  | .file e p => some (e.message p)
  | .notAList => some "expected a list of declarations"
  | _ => none

/-- The text of a refusal, where its cause has one. -/
def LoadError.message? (e : LoadError) : Option String :=
  e.cause.message?.map fun cause => Wording.unloadable e.source (some cause)

namespace Loading

/-- The suffix of a path, here or in another storage. -/
def suffix (lib : Libraries) (source : String) : String :=
  match lib.place source with
  | .elsewhere => lib.suffix source
  | _ => (Path.ofText source).suffix

/-- Whether a file is read as JSON. -/
def isJson (lib : Libraries) (source : String) : Bool :=
  Text.lower (suffix lib source) == ".json"

/-- The bytes that a path leads to. -/
def content (lib : Libraries) (fs : FileSystem) (source : String) :
    Except (Failure LoadCause) ByteArray :=
  match lib.place source with
  | .here => (fs.read (.ofText source)).mapError fun e => .refused (.file e (.ofText source))
  | .elsewhere =>
    (lib.fetch fs source).mapError fun
      | .refused message => .refused (.unavailable message)
      | .fault f => .fault f
  | .nowhere f => .error (.fault f)

/-- Why a text is no document, as a failure to load it: what is told of a value in it is told of
the file. -/
def unreadable (malformed : LoadCause) : ReadError → Failure LoadCause
  | .malformed => .refused malformed
  | .fault (.invalidValue message) => .refused (.invalidValue message)
  | .fault f => .fault f

/-- The document in a text. -/
def document (lib : Libraries) (json : Bool) (text : String) : Except (Failure LoadCause) Value :=
  if json then (lib.read .json Json.parse text).mapError (unreadable .malformedJson)
  else (lib.read .yaml Yaml.parse text).mapError (unreadable .malformedYaml)

/-- The list of a document. -/
def items? : Value → Option (List Value)
  | .list xs => some xs
  | .mapping entries =>
    match Value.get? "declarations" entries with
    | some (.list xs) => some xs
    | _ => none
  | _ => none

/-- The declarations of a document. -/
def declarations (v : Value) : Except LoadCause (List Declaration) :=
  match items? v with
  | none => .error .notAList
  | some xs => xs.mapM fun x => (Declaration.ofValue x).mapError .invalid

/-- The declarations of a file, or the cause for which there are none. -/
def read (lib : Libraries) (fs : FileSystem) (source : String) :
    Except (Failure LoadCause) (List Declaration) := do
  let bytes ← content lib fs source
  match Text.readLines? bytes with
  | none => .error (.refused .undecodable)
  | some text => do
    let v ← document lib (isJson lib source) text
    (declarations v).mapError .refused

/-- The declarations of the file at a path. -/
def load (lib : Libraries) (fs : FileSystem) (source : String) :
    Except (Failure LoadError) (List Declaration) :=
  (read lib fs source).mapError fun
    | .refused cause => .refused ⟨source, cause⟩
    | .fault f => .fault f

end Loading

end MessagePlacement
