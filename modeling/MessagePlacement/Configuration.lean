import MessagePlacement.LayoutError
import MessagePlacement.Libraries
import MessagePlacement.Toml.Reader
import MessagePlacement.Yaml.Denotation

/-!
# Finding the configuration

`Configuration.find` reads the settings of a run from the file at a given path or, without
one, from the first that exists of the default files in the working directory; of a project
file only the table of this program counts.  Fields that no file sets are taken from the
environment, and options among the fields are left to the settings library.  A
`ConfigurationError` names the source at fault and the problem with it.
-/

namespace MessagePlacement

/-- Why there is no configuration. -/
inductive ConfigurationProblem where
  | notFound
  | file (e : FileError) (p : Path)
  | malformedYaml
  | malformedToml
  | notAMapping (kind : String)
  | invalid (issues : List Issue)
  | unusable (message : String)
  | noDeclarations
  deriving DecidableEq, Repr

/-- The refusal of a configuration. -/
structure ConfigurationError where
  problem : ConfigurationProblem
  source : Option String
  deriving DecidableEq, Repr

namespace ConfigurationError

/-- The field at fault: the place of the first issue. -/
def field? (e : ConfigurationError) : Option String :=
  match e.problem with
  | .invalid (i :: _) => if i.placeName = "" then none else some i.placeName
  | .noDeclarations => some "declarations"
  | _ => none

/-- What is wrong, where the problem has a text of its own. -/
def description? : ConfigurationProblem → Option String
  | .notFound => some "Configuration file not found"
  | .file e p => some ("Could not read configuration: " ++ e.message p)
  | .notAMapping kind => some ("Configuration must be a mapping, not " ++ kind)
  | .invalid (i :: _) => i.problem.message?.map ("Invalid configuration: " ++ ·)
  | .unusable message => some ("Invalid environment settings: " ++ message)
  | .noDeclarations => some "No declarations file given"
  | _ => none

/-- The text of a refusal, where its problem has one. -/
def message? (e : ConfigurationError) : Option String :=
  (description? e.problem).map fun what => Wording.configuration what e.source e.field?

end ConfigurationError

namespace Configuration

/-- The names of the default files, in the order in which they are looked for. -/
def defaultNames : List String := ["protolayout.yaml", "protolayout.yml"]

/-- The name of the project file. -/
def projectName : String := "pyproject.toml"

/-- The key of the table of this program. -/
def tableName : String := "protolayout"

/-- The source named when there is no file. -/
def environmentName : String := "environment"

/-- The name of a key. -/
def entryName? : Value × Value → Option (String × Value)
  | (.text k, v) => some (k, v)
  | _ => none

/-- A problem with settings as the problem with a configuration. -/
def problem : SettingsProblem → ConfigurationProblem
  | .issues issues => .invalid issues
  | .unusable message => .unusable message

/-- The settings of a document from a source. -/
def build (lib : Libraries) (fs : FileSystem) (env : List (String × String)) (source : String)
    (v : Value) : Except (Failure ConfigurationError) Settings :=
  match v with
  | .mapping entries =>
    match entries.mapM entryName? with
    | none => .error (.fault .wrongType)
    | some entries =>
      (lib.settings fs entries env).mapError fun
        | .refused p => .refused ⟨problem p, some source⟩
        | .fault f => .fault f
  | v => .error (.refused ⟨.notAMapping v.kind, some source⟩)

/-- The document of a YAML file, an empty one being a mapping without entries. -/
def document (lib : Libraries) (fs : FileSystem) (source : String) (p : Path) :
    Except (Failure ConfigurationError) Value :=
  match fs.read p with
  | .error .embeddedNul => .error (.fault (.file .embeddedNul p))
  | .error e => .error (.refused ⟨.file e p, some source⟩)
  | .ok bytes =>
    match Text.readLines? bytes with
    | none => .error (.fault .undecodable)
    | some text =>
      match lib.read .yaml Yaml.parse text with
      | .error .malformed => .error (.refused ⟨.malformedYaml, some source⟩)
      | .error (.fault f) => .error (.fault f)
      | .ok v => .ok (if v.isEmpty then .mapping [] else v)

/-- Whether a path leads to something. -/
def isPresent (fs : FileSystem) (p : Path) : Except (Failure ConfigurationError) Bool :=
  (fs.isPresent p).mapError fun e => .fault (.file e p)

/-- The path of a file in the working directory. -/
def localPath (fs : FileSystem) (name : String) : Path :=
  ⟨"/", fs.workingDirectory ++ [name]⟩

/-- The table of this program in the tools of a project, if there is one. -/
def toolTable? : Value → Except Fault (Option Value)
  | .mapping entries => .ok (Value.get? tableName entries)
  | .text s => if (Text.parts tableName s).length = 1 then .ok none else .error .wrongType
  | .list xs => if xs.any (·.sameKey (.text tableName)) then .error .wrongType else .ok none
  | _ => .error .wrongType

/-- The table of this program in a project file, if there is one. -/
def projectTable? (lib : Libraries) (fs : FileSystem) (p : Path) :
    Except (Failure ConfigurationError) (Option Value) :=
  match fs.read p with
  | .error e => .error (.fault (.file e p))
  | .ok bytes =>
    match Text.readLines? bytes with
    | none => .error (.fault .undecodable)
    | some text =>
      match lib.read .toml Toml.parse text with
      | .error .malformed => .error (.refused ⟨.malformedToml, some p.text⟩)
      | .error (.fault f) => .error (.fault f)
      | .ok entries =>
        (toolTable? ((Value.get? "tool" entries).getD (.mapping []))).mapError .fault

/-- The settings of the project file or, without one, of the environment alone. -/
def findProject (lib : Libraries) (fs : FileSystem) (env : List (String × String)) :
    Except (Failure ConfigurationError) Settings := do
  let p := localPath fs projectName
  let table ← if ← isPresent fs p then projectTable? lib fs p else pure none
  match table with
  | some v => build lib fs env p.text v
  | none => build lib fs env environmentName (.mapping [])

/-- The settings of the first default file that exists. -/
def findDefault (lib : Libraries) (fs : FileSystem) (env : List (String × String)) :
    List String → Except (Failure ConfigurationError) Settings
  | [] => findProject lib fs env
  | name :: names => do
    let p := localPath fs name
    if ← isPresent fs p then
      build lib fs env p.text (← document lib fs p.text p)
    else
      findDefault lib fs env names

/-- The settings of the file at a path, if it is not empty, or of the default files. -/
def find (lib : Libraries) (fs : FileSystem) (env : List (String × String))
    (path : Option String) : Except (Failure ConfigurationError) Settings :=
  let given := path.getD ""
  if given = "" then
    findDefault lib fs env defaultNames
  else do
    let p := Path.ofText given
    if ← isPresent fs p then
      build lib fs env given (← document lib fs given p)
    else
      .error (.refused ⟨.notFound, some given⟩)

end Configuration

end MessagePlacement
