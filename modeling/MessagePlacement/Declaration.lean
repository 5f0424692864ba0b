import MessagePlacement.Text.Segments
import MessagePlacement.Validation

/-!
# Message declarations

A declaration gives a message type its protocol id, its dotted name and, optionally, a
simple name.  The id fits in sixteen bits and no part of the name between dots is blank;
both are part of the type, so that `ofValue`, which reads a document value as a
declaration, has to check them.  It reports the issues of all fields, in the order of the
fields, and ignores keys that are no field.
-/

namespace MessagePlacement

/-- A declared message type. -/
structure Declaration where
  id : Int
  name : String
  givenName : Option String
  id_nonneg : 0 ≤ id
  id_le : id ≤ 65535
  name_ne : name ≠ ""
  parts_ne_blank : (Text.parts "." name).any Text.isBlankText = false
  deriving DecidableEq, Repr

namespace Declaration

/-- The simple name of a message: the one given, if it is not empty, or the last segment. -/
def simpleName (d : Declaration) : String :=
  match d.givenName with
  | some s => if s = "" then (Text.segments d.name).getLastD "" else s
  | none => (Text.segments d.name).getLastD ""

/-- An id within its bounds. -/
def checkId (n : Int) : Except Problem { n : Int // 0 ≤ n ∧ n ≤ 65535 } :=
  if low : 0 ≤ n then
    if high : n ≤ 65535 then .ok ⟨n, low, high⟩ else .error (.aboveMaximum 65535)
  else
    .error (.belowMinimum 0)

/-- A name without blank parts. -/
def checkName (s : String) :
    Except Problem { s : String // s ≠ "" ∧ (Text.parts "." s).any Text.isBlankText = false } :=
  if nonempty : s = "" then
    .error .emptyText
  else if parts : (Text.parts "." s).any Text.isBlankText = false then
    .ok ⟨s, nonempty, parts⟩
  else
    .error (.invalid ("declaration name '" ++ s ++ "' contains an empty segment"))

/-- A required field. -/
def required {α : Type} (key : String) (read : Value → Except Problem α)
    (entries : List (Value × Value)) : Except Issue α :=
  match Value.get? key entries with
  | none => .error ⟨[.key key], .missing⟩
  | some v => (read v).mapError (⟨[.key key], ·⟩)

/-- A field that may be left out. -/
def optional (key : String) (entries : List (Value × Value)) : Except Issue (Option String) :=
  match Value.get? key entries with
  | none => .ok none
  | some v => (Validation.optionalText v).mapError (⟨[.key key], ·⟩)

/-- The issue of a field, if it has one. -/
def issue? {α : Type} : Except Issue α → List Issue
  | .error i => [i]
  | .ok _ => []

/-- The declaration that a mapping describes. -/
def ofEntries (entries : List (Value × Value)) : Except (List Issue) Declaration :=
  let id := required "protocol_id" (fun v => Validation.integer v >>= checkId) entries
  let name := required "declaration_name" (fun v => Validation.text v >>= checkName) entries
  let given := optional "simple_name" entries
  match id, name, given with
  | .ok id, .ok name, .ok given =>
    .ok ⟨id.val, name.val, given, id.property.1, id.property.2, name.property.1, name.property.2⟩
  | _, _, _ => .error (issue? id ++ issue? name ++ issue? given)

/-- The declaration that a document value describes. -/
def ofValue : Value → Except (List Issue) Declaration
  | .mapping entries => ofEntries entries
  | _ => .error [⟨[], .notAMapping⟩]

end Declaration

end MessagePlacement
