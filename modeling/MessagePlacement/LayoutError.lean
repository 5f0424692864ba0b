import MessagePlacement.Document.Value

/-!
# Layout errors

Why an operation on declarations, on their tree or on a layout is refused.  Each error is
a cause, and `message` its text; the texts that mention a number or a name are written by
functions of `Wording`.
-/

namespace MessagePlacement

namespace Wording

/-- The text for an operation on a layout that does not exist. -/
def uninitialized (operation : String) : String :=
  "Cannot call '" ++ operation ++ "': the protocol path layout is not initialized "
    ++ "(initialize() was never called or clear() already released it)"

/-- The text for a layout that exists already. -/
def alreadyInitialized : String :=
  "The protocol path layout is already initialized; call clear() before initializing it again"

/-- The text for a declaration that collides with another; an id that is not known is left out. -/
def duplicate (name : String) (id existing : Option String) : String :=
  "Duplicate declaration '" ++ name ++ "'"
    ++ match id, existing with
      | some i, some e => " (protocol " ++ i ++ " collides with protocol " ++ e ++ ")"
      | some i, none => " (protocol " ++ i ++ ")"
      | none, _ => ""

/-- The text for an id without a declaration. -/
def unknownProtocol (id : String) : String :=
  "Unknown protocol id " ++ id

/-- The text for a value that names no language. -/
def unresolvableLanguage (value : String) : String :=
  "Unresolvable target language '" ++ value ++ "'"

/-- The text for a source that declarations cannot be loaded from. -/
def unloadable (source : String) (cause : Option String) : String :=
  "Failed to load declarations from '" ++ source ++ "'" ++ (cause.map (": " ++ ·)).getD ""

/-- The text for a configuration, with the path and the field at fault where there is one. -/
def configuration (what : String) (path field : Option String) : String :=
  let place (start finish : String) (s : Option String) : String :=
    match s with
    | none => ""
    | some s => if s = "" then "" else start ++ s ++ finish
  what ++ place " in '" "'" path ++ place " (field: " ")" field

end Wording

/-- Why an operation on declarations or layouts is refused. -/
inductive LayoutError where
  | uninitialized (operation : String)
  | alreadyInitialized
  | duplicate (name : String) (id existing : Int)
  | unknownProtocol (id : Int)
  | unresolvableLanguage (value : Value)
  | emptyName
  deriving Repr

/-- The text of an error. -/
def LayoutError.message : LayoutError → String
  | .uninitialized operation => Wording.uninitialized operation
  | .alreadyInitialized => Wording.alreadyInitialized
  | .duplicate name id existing =>
    Wording.duplicate name (some (toString id)) (some (toString existing))
  | .unknownProtocol id => Wording.unknownProtocol (toString id)
  | .unresolvableLanguage v => Wording.unresolvableLanguage v.display
  | .emptyName => "Declaration name cannot be empty"

end MessagePlacement
