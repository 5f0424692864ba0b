import MessagePlacement.Json.Writer
import MessagePlacement.Resolver

/-!
# Layout reports

A report lists the registered messages of a layout in the order of their ids, each with
its names, its directory, its fold group and its address in every requested language.
`toValue` is the report as a document value and `text` the file that holds it: JSON over
several lines and a line feed.
-/

namespace MessagePlacement

/-- The planned location of a message. -/
structure ReportEntry where
  id : Int
  name : String
  simpleName : String
  path : String
  foldGroup : String
  addresses : List (Language × String)
  deriving DecidableEq, Repr

/-- The planned locations of the messages of a run. -/
structure Report where
  foldProtocol : Bool
  entries : List ReportEntry
  deriving DecidableEq, Repr

namespace Report

/-- A list of languages, repeated ones once. -/
def distinct (languages : List Language) : List Language :=
  languages.foldl (fun ls l => if ls.contains l then ls else ls ++ [l]) []

/-- The entry of a declaration. -/
def entryOf (r : Resolver) (languages : List Language) (d : Declaration) :
    Except LayoutError ReportEntry := do
  let path ← r.protocolPath d.id
  let foldGroup ← r.foldGroup d.id
  let addresses ← (distinct languages).mapM fun l => (r.address d.id l).map (l, ·)
  pure ⟨d.id, d.name, d.simpleName, path, foldGroup, addresses⟩

/-- The report on the layout of a resolver. -/
def ofResolver (r : Resolver) (languages : List Language) (foldProtocol : Bool) :
    Except LayoutError Report := do
  let l ← r.require "LayoutReport.from_resolver"
  let entries ← l.registry.entries.mapM (entryOf r languages)
  pure ⟨foldProtocol, entries⟩

end Report

/-- An entry as a document value. -/
def ReportEntry.toValue (e : ReportEntry) : Value :=
  .mapping [
    (.text "protocol_id", .int e.id),
    (.text "declaration_name", .text e.name),
    (.text "simple_name", .text e.simpleName),
    (.text "path", .text e.path),
    (.text "fold_group", .text e.foldGroup),
    (.text "absolute_paths",
      .mapping (e.addresses.map fun (l, address) => (.text l.label, .text address)))]

namespace Report

/-- A report as a document value. -/
def toValue (r : Report) : Value :=
  .mapping [
    (.text "fold_protocol", .bool r.foldProtocol),
    (.text "entries", .list (r.entries.map (·.toValue)))]

/-- The text of the file that holds a report. -/
def text (r : Report) : String :=
  Json.pretty r.toValue ++ "\n"

end Report

end MessagePlacement
