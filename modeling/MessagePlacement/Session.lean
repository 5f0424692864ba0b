import MessagePlacement.Attempt
import MessagePlacement.Fault
import MessagePlacement.Resolver

/-!
# Sessions

A session is a resolver at work: the registry, the tree and the plan of its layout are put in
place one after another and taken away one after another, and an operation that fails leaves
behind what it has changed by then.  A session counts as started when it has a plan; its
queries read the plan, and those for an address also the oracle or the registry that supplies
simple names.  To read a registry that is not there is a fault.

`Operation` lists what can be done with a session, and `perform` does it.
-/

namespace MessagePlacement

/-- The parts of a layout that are in place, and the oracle that supplies simple names if it is
not the registry. -/
structure Session where
  naming : Option NamingOracle := none
  registry : Option Registry := none
  tree : Option Tree := none
  plan : Option Plan := none

/-- A question about a layout. -/
inductive Query where
  | assignedPaths
  | protocolPath (id : Int)
  | capitalizedPath (id : Int)
  | foldGroup (id : Int)
  | fileGroups
  | absolutePath (id : Int) (language : Value)
  | relativePath (source target : Int)

/-- What an operation on a session gives. -/
inductive Answer where
  | done
  | text (s : String)
  | paths (entries : List (Int × String))
  | groups (entries : List (String × List Int))

/-- What can be done with a session. -/
inductive Operation where
  | start (ds : List Declaration) (fold : Bool)
  | clear
  | query (q : Query)

/-- The layout of a plan alone. -/
def Layout.ofPlan (plan : Plan) : Layout :=
  ⟨.empty, .empty, plan⟩

namespace Session

/-- An operation on a session. -/
abbrev Action (α : Type) := Attempt (Failure LayoutError) Session α

/-- A result as an operation that changes nothing. -/
def settle {α : Type} : Except LayoutError α → Action α
  | .ok a => pure a
  | .error e => throw (.refused e)

/-- The plan, which an operation needs. -/
def require (operation : String) : Action Plan := do
  match (← get).plan with
  | some plan => pure plan
  | none => throw (.refused (.uninitialized operation))

/-- Puts the layout of a list of declarations in place. -/
def start (ds : List Declaration) (fold : Bool) : Action Unit := do
  if (← get).plan.isSome then
    throw (.refused .alreadyInitialized)
  let l ← settle (Layout.ofDeclarations ds fold)
  modify fun s => { s with registry := some l.registry }
  modify fun s => { s with tree := some l.tree }
  modify fun s => { s with plan := some l.plan }

/-- Takes the layout away. -/
def clear : Action Unit := do
  let _ ← require "clear"
  modify fun s => { s with plan := none }
  modify fun s => { s with tree := none }
  modify fun s => { s with registry := none }

/-- The simple name of the message with an id. -/
def simpleName (id : Int) : Action String := do
  let s ← get
  match s.naming.or (s.registry.map (·.oracle)) with
  | some names => settle (names.simpleName id)
  | none => throw (.fault .missingAttribute)

/-- The address of a message in the language that a value names. -/
def absolutePath (id : Int) (language : Value) : Action String := do
  let plan ← require "get_protocol_path"
  let l ← settle (Language.resolve language)
  let simpleName ← simpleName id
  pure (Layout.address l ((Layout.ofPlan plan).protocolPath id) simpleName)

/-- Answers a query. -/
def ask : Query → Action Answer
  | .assignedPaths => do
    let plan ← require "assigned_paths"
    pure (.paths plan.paths)
  | .protocolPath id => do
    let plan ← require "get_protocol_path"
    pure (.text ((Layout.ofPlan plan).protocolPath id))
  | .capitalizedPath id => do
    let plan ← require "get_capitalized_path"
    pure (.text ((Layout.ofPlan plan).capitalizedPath id))
  | .foldGroup id => do
    let plan ← require "get_fold_group"
    pure (.text ((Layout.ofPlan plan).foldGroup id))
  | .fileGroups => do
    let plan ← require "file_groups"
    pure (.groups (Layout.ofPlan plan).fileGroups)
  | .absolutePath id language => do
    let address ← absolutePath id language
    pure (.text address)
  | .relativePath source target => do
    let plan ← require "get_relative_path"
    pure (.text ((Layout.ofPlan plan).relativePath source target))

/-- Does what an operation says. -/
def perform : Operation → Action Answer
  | .start ds fold => do
    start ds fold
    pure .done
  | .clear => do
    clear
    pure .done
  | .query q => ask q

end Session

end MessagePlacement
