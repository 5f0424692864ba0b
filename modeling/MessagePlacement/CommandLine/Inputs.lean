import MessagePlacement.CommandLine.Run

/-!
# What a command looks at

`CommandLine.inputs` lists the paths that a run looks at: those of the configuration, of the
declarations and of the report.  Where a path is configured, it is listed only if the
configuration is among the files that are known, so a second look, with what the first one
has found, lists them all.
-/

namespace MessagePlacement

namespace CommandLine

/-- The paths at which a configuration may be. -/
def configurationPaths (fs : FileSystem) (given : Option String) : List Path :=
  match given.filter (· ≠ "") with
  | some s => [Path.ofText s]
  | none =>
    (Configuration.defaultNames ++ [Configuration.projectName]).map (Configuration.localPath fs)

/-- The settings that are known. -/
def knownSettings (s : Surroundings) (path : Option String) : Settings :=
  match settings s path with
  | .ok c => c
  | .error _ => {}

/-- The paths that a command looks at. -/
def inputsOf (s : Surroundings) : Command → List Path
  | .plan r =>
    let c := knownSettings s r.configuration
    configurationPaths s.files r.configuration
      ++ (firstText? r.declarations c.declarations).toList.map Path.ofText
      ++ (firstText? r.output c.output).toList.map Path.ofText
  | .relative r =>
    let c := knownSettings s r.configuration
    configurationPaths s.files r.configuration
      ++ (firstText? r.declarations c.declarations).toList.map Path.ofText
  | .languages | .version => []

/-- The paths that the program looks at. -/
def inputs (s : Surroundings) (arguments : List String) : List Path :=
  ((Command.ofArguments? arguments).map (inputsOf s)).getD []

/-- The names under which the environment is asked for settings. -/
def variableNames : List String :=
  (Settings.fieldNames.map (Settings.variableStart ++ ·)).flatMap fun name =>
    [name.toUpper, name]

end CommandLine

end MessagePlacement
