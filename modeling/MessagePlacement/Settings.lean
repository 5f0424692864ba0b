import MessagePlacement.Json.Reader
import MessagePlacement.Language
import MessagePlacement.LayoutError
import MessagePlacement.Validation

/-!
# Settings

The settings of a run: the file of declarations, the target languages, whether messages
are folded, and the file that the report is written to.  `Settings.ofEntries` reads them
from named values, names being compared regardless of letter case, and from the
environment for the fields that are not named; `Settings.languagesOf` knows several ways to
list languages.  Names that are no field are refused.
-/

namespace MessagePlacement

/-- The settings of a run. -/
structure Settings where
  declarations : Option String := none
  languages : List Language := [.python]
  foldProtocol : Bool := true
  output : Option String := none
  deriving DecidableEq, Repr

namespace Settings

/-- The names of the fields. -/
def fieldNames : List String := ["declarations", "languages", "fold_protocol", "output"]

/-- What the names of environment variables for fields begin with, in lower case. -/
def variableStart : String := "protolayout_"

/-- The value named for a field; the first of several counts. -/
def named? (field : String) (entries : List (String × Value)) : Option Value :=
  (entries.find? fun e => Text.lower e.1 == field).map (·.2)

/-- The value that the environment has for a field; the last of several counts. -/
def environment? (field : String) (env : List (String × String)) : Option Value :=
  (env.reverse.find? fun e => Text.lower e.1 == variableStart ++ field).map fun e => .text e.2

/-- The value that is given for a field: the one that is named for it, or else the one that the
environment has. -/
def given? (field : String) (entries : List (String × Value)) (env : List (String × String)) :
    Option Value :=
  (named? field entries).or (environment? field env)

/-- The language that a value names. -/
def language (v : Value) : Except Problem Language :=
  (Language.resolve v).mapError fun e => .invalid e.message

/-- The languages of a list, of which the first one that is unknown is the problem. -/
def languageList (xs : List Value) : Except (List Issue) (List Language) :=
  (xs.mapM language).mapError fun p => [⟨[.key "languages"], p⟩]

/-- The language with exactly the label that is a member of a set; the label may be given by
the bytes that encode it. -/
def labelled (position : Nat) (v : Value) : Except Issue Language :=
  match Language.all.find? fun l => (Validation.text v).toOption == some l.label with
  | some l => .ok l
  | none => .error ⟨[.key "languages", .item position], .notAMember (Language.all.map (·.label))⟩

/-- The languages of a set, of which all members have to be labels. -/
def languageSet (xs : List Value) : Except (List Issue) (List Language) :=
  let found := xs.zipIdx.map fun (v, i) => labelled i v
  match found.filterMap fun | .error issue => some issue | .ok _ => none with
  | [] => .ok (found.filterMap fun | .ok l => some l | .error _ => none)
  | issues => .error issues

/-- Whether a text lists languages in JSON: it begins with a bracket, blank characters aside. -/
def isJson (s : String) : Bool :=
  (Text.dropStart? "[" (Text.strip s)).isSome

/-- The languages listed by a text: in JSON if it begins with a bracket, or between commas. -/
def languageText (s : String) : Except (List Issue) (List Language) :=
  if isJson s then
    match Json.parse? s with
    | some (.list xs) => languageList xs
    | some _ => .error [⟨[.key "languages"], .notAList⟩]
    | none => .error [⟨[.key "languages"], .malformed⟩]
  else
    languageList (((Text.parts "," s).filter fun item => !Text.isBlankText item).map .text)

/-- The languages that a value lists. -/
def languagesOf : Value → Except (List Issue) (List Language)
  | .text s => languageText s
  | .list xs => languageList xs
  | .pair a b => languageList [a, b]
  | .set xs => languageSet xs
  | _ => .error [⟨[.key "languages"], .notAList⟩]

/-- A field read from its value, or its default. -/
def fieldOf {α : Type} (field : String) (read : Value → Except Problem α) (default : α) :
    Option Value → Except (List Issue) α
  | none => .ok default
  | some v => (read v).mapError fun p => [⟨[.key field], p⟩]

/-- The issues of a field. -/
def issuesOf {α : Type} : Except (List Issue) α → List Issue
  | .error issues => issues
  | .ok _ => []

/-- The issues of the names that are no field. -/
def strangers (entries : List (String × Value)) : List Issue :=
  (entries.filter fun e => !fieldNames.contains (Text.lower e.1)).map fun e =>
    ⟨[.key e.1], .notPermitted⟩

/-- The settings given by named values and by the environment. -/
def ofEntries (entries : List (String × Value)) (env : List (String × String)) :
    Except (List Issue) Settings :=
  let given (field : String) := given? field entries env
  let declarations := fieldOf "declarations" Validation.optionalText none (given "declarations")
  let languages := ((given "languages").map languagesOf).getD (.ok [.python])
  let fold := fieldOf "fold_protocol" Validation.bool true (given "fold_protocol")
  let output := fieldOf "output" Validation.optionalText none (given "output")
  match declarations, languages, fold, output, strangers entries with
  | .ok declarations, .ok languages, .ok fold, .ok output, [] =>
    .ok ⟨declarations, languages, fold, output⟩
  | _, _, _, _, extra =>
    .error (issuesOf declarations ++ issuesOf languages ++ issuesOf fold ++ issuesOf output
      ++ extra)

end Settings

end MessagePlacement
