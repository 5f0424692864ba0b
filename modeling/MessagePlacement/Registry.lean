import MessagePlacement.Attempt
import MessagePlacement.Declaration
import MessagePlacement.LayoutError

/-!
# The registry of declarations

A registry holds declarations by protocol id, in increasing order of their ids.  `add`
refuses a declaration whose id is taken and leaves the registry as it was; `get` finds
the declaration of an id.  `addition` is `add` for a registry that is changed in place.
A `NamingOracle` supplies the simple names of messages, as a registry does.
-/

namespace MessagePlacement

/-- What supplies the simple name of the message with an id.  It knows of no layout, so that it
never fails for the lack of one. -/
structure NamingOracle where
  simpleName : Int → Except LayoutError String
  ne_uninitialized : ∀ id operation, simpleName id ≠ .error (.uninitialized operation)

/-- Declarations in increasing order of their ids. -/
structure Registry where
  entries : List Declaration
  deriving DecidableEq, Repr

namespace Registry

/-- The registry without declarations. -/
def empty : Registry := ⟨[]⟩

/-- The declaration of an id. -/
def find? (r : Registry) (id : Int) : Option Declaration :=
  r.entries.find? (·.id == id)

/-- Whether an id has a declaration. -/
def contains (r : Registry) (id : Int) : Bool :=
  (r.find? id).isSome

/-- A list with a declaration put before the first one of a greater id. -/
def place (d : Declaration) : List Declaration → List Declaration
  | [] => [d]
  | e :: es => if d.id < e.id then d :: e :: es else e :: place d es

/-- The registry with one more declaration. -/
def add (r : Registry) (d : Declaration) : Except LayoutError Registry :=
  match r.find? d.id with
  | some e => .error (.duplicate d.name d.id e.id)
  | none => .ok ⟨place d r.entries⟩

/-- The addition of a declaration, as a change of the registry in place. -/
def addition (d : Declaration) : Attempt LayoutError Registry Unit := do
  if let some e := (← get).find? d.id then
    throw (.duplicate d.name d.id e.id)
  modify fun r => ⟨place d r.entries⟩

/-- The registry of a list of declarations, added in order. -/
def ofList (ds : List Declaration) : Except LayoutError Registry :=
  ds.foldlM add empty

/-- The declaration of an id, which must have one. -/
def get (r : Registry) (id : Int) : Except LayoutError Declaration :=
  (r.find? id).elim (.error (.unknownProtocol id)) .ok

/-- The dotted name of the message with an id. -/
def nameOf (r : Registry) (id : Int) : Except LayoutError String :=
  (r.get id).map (·.name)

/-- The simple name of the message with an id. -/
def simpleNameOf (r : Registry) (id : Int) : Except LayoutError String :=
  (r.get id).map (·.simpleName)

/-- The registry as what supplies simple names. -/
def oracle (r : Registry) : NamingOracle where
  simpleName := r.simpleNameOf
  ne_uninitialized id operation := by
    rw [simpleNameOf, get]
    cases r.find? id with
    | none => nofun
    | some d => nofun

/-- The number of declarations. -/
def size (r : Registry) : Nat := r.entries.length

end Registry

end MessagePlacement
