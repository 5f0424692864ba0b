import MessagePlacement.Markup.Literal
import MessagePlacement.Markup.Piece
import MessagePlacement.Markup.Style
import MessagePlacement.Text.Lines
import MessagePlacement.Text.Pictograph
import MessagePlacement.Text.Word

/-!
# Rendered text

`render` makes of marked-up text the characters that are printed and the spans of its tags.
A tag with a slash closes the innermost open tag of its style, or the innermost one if it
names none, and it is a fault if there is no such tag; a tag that nothing closes reaches to
the end.  A tag that begins with an at sign is an action, whose parameters have to be
readable when it is closed.  The style of any other span is read when the text is printed,
if the span is on a line of it.
-/

namespace MessagePlacement.Markup

/-- A tag that is not closed yet, with the number of characters before it. -/
structure OpenTag where
  style : String
  parameters : Option (List Char)
  start : Nat
  deriving DecidableEq, Repr

/-- The characters from one number of them to another, in a style. -/
structure Span where
  style : String
  start : Nat
  stop : Nat
  deriving DecidableEq, Repr

/-- What is printed of a marked-up text. -/
structure Rendered where
  text : List Char := []
  spans : List Span := []
  deriving DecidableEq, Repr

/-! ### Tags -/

/-- Whether a tag is an action. -/
def OpenTag.isAction (t : OpenTag) : Bool := t.style.toList.head? == some '@'

/-- Whether the parameters of an action can be read.  They may begin with the name of what is
called, if a list of arguments or nothing follows. -/
def OpenTag.isReadable (t : OpenTag) : Bool :=
  let parameters := Text.trimWith Text.isBlank (t.parameters.getD [])
  match parameters.dropWhile fun c => Text.isWordChar c || c == '.' with
  | [] => true
  | '(' :: rest =>
    let arguments := '(' :: rest
    isLiteral (if rest.getLast? == some ')' && !rest.contains '\n' then arguments else parameters)
  | _ => isLiteral parameters

/-- The style of the span of a tag. -/
def OpenTag.spanStyle (t : OpenTag) : String :=
  match t.parameters with
  | some parameters => t.style ++ " " ++ String.ofList parameters
  | none => t.style

/-- The span of a tag that is closed after a number of characters. -/
def OpenTag.span (t : OpenTag) (stop : Nat) : List Span :=
  if t.isAction then [] else [⟨t.spanStyle, t.start, stop⟩]

/-- The first open tag of a style, and the others. -/
def takeTag? (style : String) : List OpenTag → Option (OpenTag × List OpenTag)
  | [] => none
  | t :: ts =>
    if t.style = style then some (t, ts)
    else (takeTag? style ts).map fun (found, others) => (found, t :: others)

/-- The open tag that is closed by a name, and the others. -/
def closed (name : List Char) (ts : List OpenTag) : Except Fault (OpenTag × List OpenTag) := do
  let name := Text.strip (String.ofList name)
  let found ←
    if name = "" then pure (ts.head?.map (·, ts.tail))
    else do pure (takeTag? (← Style.canonical name) ts)
  match found with
  | none => throw .markup
  | some (t, ts) => if t.isAction && !t.isReadable then throw .markup else pure (t, ts)

/-! ### Rendering -/

/-- Whether a character moves the cursor and is never printed. -/
def isMovement (c : Char) : Bool :=
  c == '\x07' || c == '\x08' || c == '\x0b' || c == '\x0c' || c == '\r'

/-- A text with opening brackets in place of those that have a backslash. -/
def plainBrackets : List Char → List Char
  | '\\' :: '[' :: cs => '[' :: plainBrackets cs
  | c :: cs => c :: plainBrackets cs
  | [] => []

/-- The characters that are printed of those between tags. -/
def plainText (cs : List Char) : List Char :=
  (Text.withPictographs (plainBrackets cs)).filter fun c => !isMovement c

/-- The outcome of the rest of the pieces after what has been rendered, given the open tags
with the innermost first. -/
def renderFrom (r : Rendered) (ts : List OpenTag) : List Piece → Except Fault Rendered
  | [] => .ok { r with spans := r.spans ++ ts.flatMap (·.span r.text.length) }
  | .plain cs :: ps => renderFrom { r with text := r.text ++ plainText cs } ts ps
  | .tag ('/' :: name) _ :: ps => do
    let (t, ts) ← closed name ts
    renderFrom { r with spans := r.spans ++ t.span r.text.length } ts ps
  | .tag name parameters :: ps => do
    let style ← Style.canonical (String.ofList name)
    renderFrom r (⟨style, parameters, r.text.length⟩ :: ts) ps

/-- What is printed of a marked-up text. -/
def render (s : String) : Except Fault Rendered :=
  renderFrom {} [] (Piece.ofText s.toList)

/-! ### Printing -/

/-- Whether the style of a span is read.  In a text of several lines or with tabulations this
is so for spans that hold a character of a line. -/
def Span.isPrinted (s : Span) (text : List Char) : Bool :=
  let inner := (text.take s.stop).drop s.start
  (!text.contains '\n' && !text.contains '\t') || inner.any (· != '\n')

/-- Reading the styles of a text. -/
def Rendered.readStyles (r : Rendered) : Except Fault Unit :=
  (r.spans.filter (·.isPrinted r.text)).forM fun s => do
    let _ ← Style.read? s.style

/-- A text as it is printed, without its tags and with a line feed at its end. -/
def printed (s : String) : Except Fault String := do
  let r ← render s
  r.readStyles
  let lines := (Text.partsWhere (· == '\n') r.text).map Text.expandTabs
  pure (Text.join "\n" (lines.map String.ofList) ++ "\n")

end MessagePlacement.Markup
