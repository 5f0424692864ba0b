import MessagePlacement.Settings
import MessagePlacement.Fault

/-!
# Libraries

What the program leaves to others is a parameter of all that uses it.  The reading of a text can
exceed a limit of the interpreter.  Among the named values that settings are made from there can
be options of the settings library, which decides alone what becomes of them.  A written path can
lead to another storage than the files here, or to none.  `Libraries.standard` has no limits and no
other storage, and of the options it knows the one for the prefix of environment variables.
-/

namespace MessagePlacement

/-- What a text is read as. -/
inductive Reader where
  | json
  | yaml
  | toml
  | languages
  deriving DecidableEq, Repr

/-- Where a written path leads: to the files here, to another storage, or nowhere. -/
inductive Place where
  | here
  | elsewhere
  | nowhere (f : Fault)
  deriving DecidableEq, Repr

/-- Why there are no settings: for issues of the values, or because the environment is
unusable. -/
inductive SettingsProblem where
  | issues (issues : List Issue)
  | unusable (message : String)
  deriving DecidableEq, Repr

/-- What the program leaves to libraries and to the interpreter. -/
structure Libraries where
  /-- Whether a limit of the interpreter ends the reading of a text. -/
  exceeds : Reader → String → Bool
  /-- Whether a name is an option of the settings library. -/
  isOption : String → Bool
  /-- The settings given by named values with options among them, and by the environment. -/
  configure : FileSystem → List (String × Value) → List (String × String) →
    Except (Failure SettingsProblem) Settings
  /-- Where a written path leads. -/
  place : String → Place
  /-- The suffix of a path to another storage. -/
  suffix : String → String
  /-- What another storage has at a path. -/
  fetch : FileSystem → String → Except (Failure String) ByteArray
  /-- The files after a content has been given to another storage, with what this ends with. -/
  store : FileSystem → String → ByteArray → FileSystem × Except Fault Unit

namespace Libraries

/-- The reading of a text within the limits of the interpreter. -/
def read {α : Type} (lib : Libraries) (reader : Reader) (parse : String → Except ReadError α)
    (text : String) : Except ReadError α :=
  if lib.exceeds reader text then .error (.fault .limit) else parse text

/-- Whether a value lists languages in a text that exceeds a limit of the interpreter. -/
def exceedsIn (lib : Libraries) : Value → Bool
  | .text s => Settings.isJson s && lib.exceeds .languages s
  | _ => false

/-- The settings given by named values and by the environment. -/
def settings (lib : Libraries) (fs : FileSystem) (entries : List (String × Value))
    (env : List (String × String)) : Except (Failure SettingsProblem) Settings :=
  if entries.any fun e => lib.isOption e.1 then lib.configure fs entries env
  else if (Settings.given? "languages" entries env).any lib.exceedsIn then .error (.fault .limit)
  else (Settings.ofEntries entries env).mapError fun issues => .refused (.issues issues)

/-! ### The standard libraries -/

/-- The options of the settings library. -/
def optionNames : List String := [
  "__pydantic_self__", "_build_sources", "_case_sensitive", "_cli_avoid_json",
  "_cli_enforce_required", "_cli_exit_on_error", "_cli_flag_prefix_char", "_cli_hide_none_type",
  "_cli_ignore_unknown_args", "_cli_implicit_flags", "_cli_kebab_case", "_cli_parse_args",
  "_cli_parse_none_str", "_cli_prefix", "_cli_prog_name", "_cli_settings_source", "_cli_shortcuts",
  "_cli_use_class_docs_for_groups", "_env_file", "_env_file_encoding", "_env_ignore_empty",
  "_env_nested_delimiter", "_env_nested_max_split", "_env_parse_enums", "_env_parse_none_str",
  "_env_prefix", "_env_prefix_target", "_nested_model_default_partial_update", "_secrets_dir"]

/-- The variables whose names begin with a prefix, under the names that the fields have. -/
def renamed (start : String) (env : List (String × String)) : List (String × String) :=
  env.filterMap fun (name, value) =>
    (Text.dropStart? (Text.lower start) (Text.lower name)).map fun field =>
      (Settings.variableStart ++ field, value)

/-- The settings given by named values and by the environment, whose variables begin with the
prefix that is named.  The instance itself cannot be named, and other options count as unset. -/
def configureByPrefix (entries : List (String × Value)) (env : List (String × String)) :
    Except (Failure SettingsProblem) Settings :=
  let values := entries.filter fun e => !optionNames.contains e.1
  let settings (env : List (String × String)) : Except (Failure SettingsProblem) Settings :=
    (Settings.ofEntries values env).mapError fun issues => .refused (.issues issues)
  if entries.any (·.1 == "__pydantic_self__") then
    .error (.fault .wrongType)
  else
    match entries.lookup "_env_prefix" with
    | none | some .null => settings env
    | some (.text start) => settings (renamed start env)
    | some _ => .error (.fault .wrongType)

/-- The name of the storage that a written path begins with. -/
def protocol? (s : String) : Option String :=
  let name := s.toList.takeWhile fun c => c.isAlphanum || c == '+'
  match name, s.toList.drop name.length with
  | c :: _ :: _, ':' :: '/' :: _ => if c.isAlpha then some (String.ofList name) else none
  | _, _ => none

/-- The fault of a path to a storage that there is not. -/
def unsupported (protocol : String) : Fault :=
  .invalidValue ("Unsupported filesystem: " ++ Text.quoted protocol)

/-- The libraries of an interpreter without limits and without other storages. -/
def standard : Libraries where
  exceeds _ _ := false
  isOption name := optionNames.contains name
  configure _ := configureByPrefix
  place s := (protocol? s).elim .here fun protocol => .nowhere (unsupported protocol)
  suffix s := (Path.ofText s).suffix
  fetch _ _ := .error (.refused "")
  store fs _ _ := (fs, .error .missingAttribute)

end Libraries

end MessagePlacement
