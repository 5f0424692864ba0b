import MessagePlacement.CommandLine.Command
import MessagePlacement.Configuration
import MessagePlacement.Loading
import MessagePlacement.Markup.Table
import MessagePlacement.Report

/-!
# Running commands

`CommandLine.run` carries a command out on the files and the environment as they are.  It
returns the files as they are afterwards and an `Ending`: what is printed, the refusal of
the request, a fault, or that the arguments make no command.  Only a plan changes files,
and only after its table: the report is the last thing that it makes.
-/

namespace MessagePlacement

/-- Why a request is refused. -/
inductive Refusal where
  | layout (e : LayoutError)
  | load (e : LoadError)
  | configuration (e : ConfigurationError)

/-- The text of a refusal, where it has one. -/
def Refusal.message? : Refusal → Option String
  | .layout e => some e.message
  | .load e => e.message?
  | .configuration e => e.message?

/-- How a command ends. -/
inductive Ending where
  | printed (text : String)
  | refused (r : Refusal) (text : Option String)
  | fault (f : Fault)
  | misused

/-- The exit code of an ending. -/
def Ending.exitCode : Ending → Nat
  | .printed _ => 0
  | .refused _ _ => 1
  | .fault _ => 1
  | .misused => 2

/-- What an ending prints. -/
def Ending.output : Ending → String
  | .printed text => text
  | .refused _ text => text.getD ""
  | .fault _ => ""
  | .misused => ""

/-- What is told of an ending that prints nothing. -/
def Ending.complaint : Ending → String
  | .refused _ none => "The input is malformed.\n"
  | .fault f => "Failure: " ++ f.description ++ "\n"
  | .misused => Command.usage
  | _ => ""

namespace CommandLine

/-- The version of the program. -/
def version : String := "0.1.0"

/-- What a command is carried out on, and by which libraries. -/
structure Surroundings where
  files : FileSystem
  env : List (String × String) := []
  libraries : Libraries := .standard

/-- A text or, if it is missing or empty, another one, if that is not empty. -/
def firstText? (s t : Option String) : Option String :=
  let present (s : Option String) := s.filter (· ≠ "")
  (present s).or (present t)

/-- The outcome of an operation on layouts. -/
def layout {α : Type} (r : Except LayoutError α) : Except (Failure Refusal) α :=
  r.mapError fun e => .refused (.layout e)

/-- A failure to load or to configure as a failure of a request. -/
def failure {ε : Type} (f : ε → Refusal) : Failure ε → Failure Refusal
  | .refused e => .refused (f e)
  | .fault e => .fault e

/-- The settings of a run. -/
def settings (s : Surroundings) (path : Option String) : Except (Failure Refusal) Settings :=
  (Configuration.find s.libraries s.files s.env path).mapError (failure .configuration)

/-- The resolver for the declarations that are given or configured. -/
def resolver (s : Surroundings) (c : Settings) (given : Option String) :
    Except (Failure Refusal) Resolver :=
  match firstText? given c.declarations with
  | none => .error (.refused (.configuration ⟨.noDeclarations, none⟩))
  | some source => do
    let ds ← (Loading.load s.libraries s.files source).mapError (failure .load)
    layout (Resolver.start {} ds c.foldProtocol)

/-- The languages that are given or, if none are, configured. -/
def languages (c : Settings) (given : List String) : Except (Failure Refusal) (List Language) :=
  if given.isEmpty then
    .ok c.languages
  else
    given.mapM fun name => layout (Language.resolve (.text name))

/-! ### Tables -/

/-- The row of an entry, with its address in every language. -/
def reportRow (languages : List Language) (e : ReportEntry) : List String :=
  [toString e.id, e.name, if e.path = "" then "." else e.path, e.foldGroup]
    ++ languages.map fun l => (e.addresses.lookup l).getD ""

/-- The table of a report. -/
def reportTable (languages : List Language) (r : Report) : Table :=
  { title := "Protocol layout"
    columns := [⟨"Id", true⟩, ⟨"Declaration", false⟩, ⟨"Path", false⟩, ⟨"Group", false⟩]
      ++ languages.map fun l => ⟨l.label, false⟩
    rows := r.entries.map (reportRow languages) }

/-- The row of a language. -/
def languageRow (l : Language) : List String :=
  let c := l.convention
  [l.label, l.style, c.separator, if c.rootMarker = "" then "-" else c.rootMarker]

/-- The table of all languages. -/
def languageTable : Table :=
  { title := "Target languages"
    columns := [⟨"Language", false⟩, ⟨"Style", false⟩, ⟨"Separator", false⟩, ⟨"Root marker", false⟩]
    rows := Language.all.map languageRow }

/-! ### Commands -/

/-- The ending of something to be printed. -/
def print : Except Fault String → Ending
  | .ok text => .printed text
  | .error f => .fault f

/-- The ending of a failure. -/
def fail : Failure Refusal → Ending
  | .fault f => .fault f
  | .refused r =>
    match r.message? with
    | none => .refused r none
    | some message =>
      match Markup.printed ("[red]Error:[/red] " ++ message) with
      | .ok text => .refused r (some text)
      | .error f => .fault f

/-- What a plan comes to: its settings, its languages and its report. -/
def makePlan (s : Surroundings) (r : PlanRequest) :
    Except (Failure Refusal) (Settings × List Language × Report) := do
  let c ← settings s r.configuration
  let c := if r.unfolded then { c with foldProtocol := false } else c
  let languages ← languages c r.languages
  let resolver ← resolver s c r.declarations
  let report ← layout (Report.ofResolver resolver languages c.foldProtocol)
  pure (c, languages, report)

/-- The files with a report at a target, here or in another storage, and what its writing ends
with. -/
def store (s : Surroundings) (target : String) (r : Report) : FileSystem × Except Fault Unit :=
  match s.libraries.place target with
  | .here =>
    let (fs, result) := s.files.writeBelow (.ofText target) r.text.toUTF8
    (fs, result.mapError fun e => .file e (.ofText target))
  | .elsewhere => s.libraries.store s.files target r.text.toUTF8
  | .nowhere f => (s.files, .error f)

/-- The files with a report, and the ending after a table and the notice of the report. -/
def writeReport (s : Surroundings) (table target : String) (r : Report) : FileSystem × Ending :=
  match store s target r with
  | (fs, .error f) => (fs, .fault f)
  | (fs, .ok ()) =>
    let notice := Markup.printed ("[dim]Layout report written to " ++ target ++ "[/dim]")
    (fs, print (notice.map (table ++ ·)))

/-- Planning a layout. -/
def plan (s : Surroundings) (r : PlanRequest) : FileSystem × Ending :=
  match makePlan s r with
  | .error e => (s.files, fail e)
  | .ok (c, languages, report) =>
    match (reportTable languages report).printed with
    | .error f => (s.files, .fault f)
    | .ok table =>
      match firstText? r.output c.output with
      | none => (s.files, .printed table)
      | some target => writeReport s table target report

/-- The relative path from one message to another, both of which have to be declared. -/
def relativePath (s : Surroundings) (r : RelativeRequest) : Except (Failure Refusal) String := do
  let c ← settings s r.configuration
  let resolver ← resolver s c r.declarations
  let l ← layout (resolver.require "get_relative_path")
  let _ ← layout (l.registry.get r.source)
  let _ ← layout (l.registry.get r.target)
  layout (resolver.relativePath r.source r.target)

/-- Telling a relative path. -/
def relative (s : Surroundings) (r : RelativeRequest) : Ending :=
  match relativePath s r with
  | .error e => fail e
  | .ok path => print (Markup.printed (if path = "" then "[dim](same file)[/dim]" else path))

/-- Carrying out a command. -/
def carryOut (s : Surroundings) : Command → FileSystem × Ending
  | .plan r => plan s r
  | .relative r => (s.files, relative s r)
  | .languages => (s.files, print languageTable.printed)
  | .version => (s.files, .printed ("protolayout version: " ++ version ++ "\n"))

/-- Running the program with arguments. -/
def run (s : Surroundings) (arguments : List String) : FileSystem × Ending :=
  match Command.ofArguments? arguments with
  | some c => carryOut s c
  | none => (s.files, .misused)

end CommandLine

end MessagePlacement
