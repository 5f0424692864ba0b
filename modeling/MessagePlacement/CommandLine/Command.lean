import MessagePlacement.Validation

/-!
# Commands

What the arguments of the program ask for.  Options may stand anywhere among the arguments
of a command; the value of a long option follows as the next argument or after an equals
sign, that of a short one as the next argument or at once.  Two dashes end the options.
`Command.ofArguments?` fails on arguments that make no command.
-/

namespace MessagePlacement

/-- What a plan is asked for with. -/
structure PlanRequest where
  declarations : Option String
  configuration : Option String
  languages : List String
  unfolded : Bool
  output : Option String
  deriving DecidableEq, Repr

/-- What a relative path is asked for with. -/
structure RelativeRequest where
  source : Int
  target : Int
  declarations : Option String
  configuration : Option String
  deriving DecidableEq, Repr

/-- A command. -/
inductive Command where
  | plan (r : PlanRequest)
  | relative (r : RelativeRequest)
  | languages
  | version
  deriving DecidableEq, Repr

/-- An option: its long name, its letter, and whether a value follows it. -/
structure CommandOption where
  name : String
  letter : Option Char := none
  takesValue : Bool := true
  deriving DecidableEq, Repr

/-- Arguments taken apart: the values of options, by their names, and the other arguments. -/
structure Arguments where
  options : List (String × String) := []
  words : List String := []
  deriving DecidableEq, Repr

namespace Arguments

/-- The arguments with an option in front. -/
def addOption (name value : String) (a : Arguments) : Arguments :=
  { a with options := (name, value) :: a.options }

/-- The arguments with a word in front. -/
def addWord (word : String) (a : Arguments) : Arguments :=
  { a with words := word :: a.words }

/-- The value of an option; the last one counts. -/
def last? (name : String) (a : Arguments) : Option String :=
  a.options.reverse.lookup name

/-- All values of an option. -/
def all (name : String) (a : Arguments) : List String :=
  (a.options.filter (·.1 = name)).map (·.2)

/-- What an argument is: a word, an option with its value, an option whose value is the next
argument, or no argument at all. -/
inductive Reading where
  | word
  | option (name value : String)
  | pending (name : String)
  | unknown
  deriving DecidableEq, Repr

/-- How a short option is read, given what stands after the dash. -/
def readLetters (options : List CommandOption) : List Char → Reading
  | [] => .unknown
  | c :: cs =>
    match options.find? (·.letter = some c) with
    | none => .unknown
    | some o => if cs.isEmpty then .pending o.name else .option o.name (String.ofList cs)

/-- How an argument is read. -/
def readOne (options : List CommandOption) (argument : String) : Reading :=
  match argument.toList with
  | '-' :: c :: cs =>
    let body := c :: cs
    let name := body.takeWhile (· != '=')
    let long := options.find? fun o => '-' :: o.name.toList == name
    match long, body.drop name.length with
    | some o, [] => if o.takesValue then .pending o.name else .option o.name ""
    | some o, _ :: value => if o.takesValue then .option o.name (String.ofList value) else .unknown
    | none, _ => if c = '-' then .unknown else readLetters options body
  | _ => .word

/-- Arguments taken apart. -/
def read? (options : List CommandOption) : List String → Option Arguments
  | [] => some {}
  | a :: rest =>
    if a = "--" then
      some ⟨[], rest⟩
    else
      match readOne options a, rest with
      | .word, rest => (read? options rest).map (addWord a)
      | .option name value, rest => (read? options rest).map (addOption name value)
      | .pending name, value :: rest => (read? options rest).map (addOption name value)
      | .pending _, [] => none
      | .unknown, _ => none

end Arguments

namespace Command

/-- The option for the configuration file. -/
def configurationOption : CommandOption := { name := "config", letter := some 'c' }

/-- The options of a plan. -/
def planOptions : List CommandOption := [
  configurationOption, { name := "language", letter := some 'l' },
  { name := "no-fold", takesValue := false }, { name := "output", letter := some 'o' }]

/-- How the program is used. -/
def usage : String :=
  "Usage: protolayout plan [DECLARATIONS] [-c FILE] [-l LANGUAGE]... [--no-fold] [-o FILE]\n"
    ++ "       protolayout relative FROM TO [DECLARATIONS] [-c FILE]\n"
    ++ "       protolayout languages\n"
    ++ "       protolayout version\n"

/-- The words of arguments, if there are no more than a number. -/
def wordsUpTo? (n : Nat) (a : Arguments) : Option (List String) :=
  if a.words.length ≤ n then some a.words else none

/-- The plan that arguments ask for. -/
def planOf? (a : Arguments) : Option Command := do
  let words ← wordsUpTo? 1 a
  some (.plan ⟨words[0]?, a.last? "config", a.all "language", (a.last? "no-fold").isSome,
    a.last? "output"⟩)

/-- The relative path that arguments ask for. -/
def relativeOf? (a : Arguments) : Option Command := do
  let words ← wordsUpTo? 3 a
  let source ← (Validation.integerOfText (← words[0]?)).toOption
  let target ← (Validation.integerOfText (← words[1]?)).toOption
  some (.relative ⟨source, target, words[2]?, a.last? "config"⟩)

/-- A command without arguments. -/
def alone? (c : Command) (a : Arguments) : Option Command :=
  (wordsUpTo? 0 a).map fun _ => c

/-- The command with a name and arguments. -/
def named? (name : String) (arguments : List String) : Option Command :=
  match name with
  | "plan" => (Arguments.read? planOptions arguments).bind planOf?
  | "relative" => (Arguments.read? [configurationOption] arguments).bind relativeOf?
  | "languages" => (Arguments.read? [] arguments).bind (alone? .languages)
  | "version" => (Arguments.read? [] arguments).bind (alone? .version)
  | _ => none

/-- The command that the arguments of the program ask for. -/
def ofArguments? : List String → Option Command
  | "--" :: name :: arguments => named? name arguments
  | name :: arguments => named? name arguments
  | [] => none

end Command

end MessagePlacement
