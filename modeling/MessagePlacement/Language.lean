import MessagePlacement.Document.Value
import MessagePlacement.LayoutError
import MessagePlacement.Text.Blank
import MessagePlacement.Text.Case

/-!
# Target languages

The languages that message code is generated for, and the `Convention` by which each of
them addresses a generated file.  In directory style the address is the directory and the
simple name of the message; in package style the last segment is stripped, the remaining
ones are joined by the separator of the language, and a message at the root is addressed
by the root marker.  The internal format is not subject to these rules.

`ofName?` finds a language by its label after removing blank characters at the ends,
regardless of letter case; `ofValue?` does so for a value of a document, and `resolve` refuses the
values that name no language.
-/

namespace MessagePlacement

/-- A language that message code is generated for. -/
inductive Language where
  | cpp
  | go
  | javaScript
  | typeScript
  | cSharp
  | protobuf
  | lua
  | gdScript
  | python
  | enhance
  deriving DecidableEq, Repr

/-- How a language addresses generated files. -/
structure Convention where
  separator : String := "/"
  stripsLastSegment : Bool := false
  rootMarker : String := ""
  isInternal : Bool := false
  deriving DecidableEq, Repr

namespace Language

/-- The languages in the order in which they are listed. -/
def all : List Language :=
  [.cpp, .go, .javaScript, .typeScript, .cSharp, .protobuf, .lua, .gdScript, .python, .enhance]

/-- The label of a language. -/
def label : Language → String
  | .cpp => "Cpp"
  | .go => "Go"
  | .javaScript => "JavaScript"
  | .typeScript => "TypeScript"
  | .cSharp => "CSharp"
  | .protobuf => "Protobuf"
  | .lua => "Lua"
  | .gdScript => "GdScript"
  | .python => "Python"
  | .enhance => "Enhance"

/-- The label of a language in capitals. -/
def constantName (l : Language) : String :=
  String.ofList (l.label.toList.map Char.toUpper)

/-- The convention of a language. -/
def convention : Language → Convention
  | .python => { separator := ".", stripsLastSegment := true, rootMarker := "." }
  | .enhance => { isInternal := true }
  | _ => {}

/-- The style of a convention. -/
def style (l : Language) : String :=
  if l.convention.isInternal then "internal"
  else if l.convention.stripsLastSegment then "package"
  else "directory"

/-- The language with a name, blank characters at the ends and letter case aside. -/
def ofName? (name : String) : Option Language :=
  let key := Text.lower (Text.strip name)
  all.find? fun l => key == Text.lower l.label

/-- The language that a value names. -/
def ofValue? : Value → Option Language
  | .text s => ofName? s
  | _ => none

/-- The language that a value names, which has to name one. -/
def resolve (v : Value) : Except LayoutError Language :=
  (ofValue? v).elim (.error (.unresolvableLanguage v)) .ok

end Language

end MessagePlacement
