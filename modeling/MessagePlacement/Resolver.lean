import MessagePlacement.Language
import MessagePlacement.Plan
import MessagePlacement.Registry

/-!
# Resolving paths

A `Layout` is what a generation run has settled: the registered declarations, their tree
and its folding plan.  A `Resolver` has a layout between `start` and `clear`, and answers
questions about it; an operation that needs a layout fails without one, and `start` fails
with one.  Simple names are taken from the oracle `naming`, if the resolver has one,
and otherwise from the declarations of the layout.

The relative path between two messages leads from the directory of one to the directory
of the other: `.` within a directory, `./` and the further segments downwards, and as
many `../` as lead up to the nearest common directory followed by the way down from it
otherwise.  Without assigned paths everything is in one file, and the relative path is
empty.
-/

namespace MessagePlacement

/-- The settled layout of a generation run. -/
structure Layout where
  registry : Registry
  tree : Tree
  plan : Plan

namespace Layout

/-- The layout of a list of declarations, folded or not. -/
def ofDeclarations (ds : List Declaration) (fold : Bool) : Except LayoutError Layout := do
  let registry ← Registry.ofList ds
  let tree ← Tree.ofList registry.entries
  pure ⟨registry, tree, if fold && !tree.isEmpty then tree.plan else .empty⟩

/-- The directory of a message, slashed. -/
def protocolPath (l : Layout) (id : Int) : String :=
  Text.directoryPath (Plan.valueOf id l.plan.paths)

/-- The directory of a message with every segment capitalized. -/
def capitalizedPath (l : Layout) (id : Int) : String :=
  Text.join "/" ((Text.segments (Plan.valueOf id l.plan.paths)).map Text.capitalize)

/-- The namespace at which a message was folded. -/
def foldGroup (l : Layout) (id : Int) : String :=
  Plan.valueOf id l.plan.groups

/-- A list of groups with an id put at the end of its group, which may be new. -/
def addToGroup (id : Int) (group : String) : List (String × List Int) → List (String × List Int)
  | [] => [(group, [id])]
  | (g, ids) :: rest =>
    if g = group then (g, ids ++ [id]) :: rest else (g, ids) :: addToGroup id group rest

/-- The ids of each group, in increasing order; the groups in the order of their least ids. -/
def fileGroups (l : Layout) : List (String × List Int) :=
  (l.plan.groups.mergeSort fun a b => decide (a.1 ≤ b.1)).foldl
    (fun groups (id, group) => addToGroup id group groups) []

/-- The climb from a list of segments to its front part of length `depth` or above,
whichever is nearest and at the front of `target` too, and the way down from there. -/
def climbFrom (source target : List String) : Nat → Nat → String
  | 0, _ => Text.join "" (List.replicate source.length "../") ++ Text.join "/" target
  | depth + 1, climbs =>
    if target.take (depth + 1) = source.take (depth + 1) then
      Text.join "" (List.replicate (climbs + 1) "../") ++ Text.join "/" (target.drop (depth + 1))
    else
      climbFrom source target depth (climbs + 1)

/-- The reference from one directory to another, given by their segments. -/
def reference (source target : List String) : String :=
  if target.take source.length = source then
    match target.drop source.length with
    | [] => "."
    | rest => "./" ++ Text.join "/" rest
  else
    climbFrom source target (source.length - 1) 0

/-- The relative path from one message to another. -/
def relativePath (l : Layout) (source target : Int) : String :=
  if l.plan.paths.isEmpty then
    ""
  else
    reference (Text.segments (Plan.valueOf source l.plan.paths))
      (Text.segments (Plan.valueOf target l.plan.paths))

/-- The address of a file in a language, by its directory and simple name. -/
def address (language : Language) (path simpleName : String) : String :=
  let c := language.convention
  let absolute := if path = "" then simpleName else path ++ "/" ++ simpleName
  if c.isInternal || !c.stripsLastSegment then absolute
  else if path = "" then c.rootMarker
  else Text.join c.separator (Text.parts "/" (Text.beforeLastSlash absolute))

end Layout

/-- The layout of a run, while there is one, and the oracle that supplies simple names. -/
structure Resolver where
  naming : Option NamingOracle := none
  layout : Option Layout := none

namespace Resolver

/-- The layout, which an operation needs. -/
def require (r : Resolver) (operation : String) : Except LayoutError Layout :=
  r.layout.elim (.error (.uninitialized operation)) .ok

/-- The resolver with the layout of a list of declarations. -/
def start (r : Resolver) (ds : List Declaration) (fold : Bool) : Except LayoutError Resolver :=
  match r.layout with
  | some _ => .error .alreadyInitialized
  | none => (Layout.ofDeclarations ds fold).map fun l => { r with layout := some l }

/-- The resolver without a layout. -/
def clear (r : Resolver) : Except LayoutError Resolver :=
  (r.require "clear").map fun _ => { r with layout := none }

/-- The dotted paths of the ids that have one. -/
def assignedPaths (r : Resolver) : Except LayoutError (List (Int × String)) :=
  (r.require "assigned_paths").map (·.plan.paths)

/-- The directory of a message, slashed. -/
def protocolPath (r : Resolver) (id : Int) : Except LayoutError String :=
  (r.require "get_protocol_path").map (·.protocolPath id)

/-- The directory of a message with every segment capitalized. -/
def capitalizedPath (r : Resolver) (id : Int) : Except LayoutError String :=
  (r.require "get_capitalized_path").map (·.capitalizedPath id)

/-- The namespace at which a message was folded. -/
def foldGroup (r : Resolver) (id : Int) : Except LayoutError String :=
  (r.require "get_fold_group").map (·.foldGroup id)

/-- The ids that share a file, by the namespace at which they were folded. -/
def fileGroups (r : Resolver) : Except LayoutError (List (String × List Int)) :=
  (r.require "file_groups").map (·.fileGroups)

/-- The address of a message in a language. -/
def address (r : Resolver) (id : Int) (language : Language) : Except LayoutError String := do
  let l ← r.require "get_protocol_path"
  let simpleName ← (r.naming.getD l.registry.oracle).simpleName id
  pure (Layout.address language (l.protocolPath id) simpleName)

/-- The address of a message in the language that a value names. -/
def absolutePath (r : Resolver) (id : Int) (language : Value) : Except LayoutError String := do
  let _ ← r.require "get_protocol_path"
  let l ← Language.resolve language
  r.address id l

/-- The relative path from one message to another. -/
def relativePath (r : Resolver) (source target : Int) : Except LayoutError String :=
  (r.require "get_relative_path").map (·.relativePath source target)

end Resolver

end MessagePlacement
