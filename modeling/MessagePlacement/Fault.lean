import MessagePlacement.Files.FileSystem
import MessagePlacement.Text.Quoted

/-!
# Faults

A fault is a failure that no operation reports as an error of its own: it ends the
program.  Each constructor names what was met: a file that cannot be used, bytes that are
no text, a number or date that no value can hold, and so on.  An operation that has errors
of its own ends with a `Failure`, one of them or a fault.  A text that is read as a document
ends the reading with a `ReadError` if it denotes no value.
-/

namespace MessagePlacement

/-- A failure that ends the program. -/
inductive Fault where
  | file (e : FileError) (p : Path)
  | undecodable
  | invalidValue (message : String)
  | overflow
  | wrongType
  | missingKey
  | missingAttribute
  | outOfRange
  | markup
  | halfPair
  | limit
  deriving DecidableEq, Repr

/-- The fault of a text that is no integer in a base.  It tells at most 200 characters of the
quoted text. -/
def Fault.unreadableInteger (base : Nat) (text : String) : Fault :=
  .invalidValue ("invalid literal for int() with base " ++ toString base ++ ": "
    ++ String.ofList ((Text.quoted text).toList.take 200))

/-- The greatest number of digits of an integer that is written in base ten. -/
def Fault.mostDigits : Nat := 4300

/-- The fault of an integer with too many digits in base ten. -/
def Fault.overlongInteger (digits : Nat) : Fault :=
  .invalidValue ("Exceeds the limit (" ++ toString mostDigits
    ++ " digits) for integer string conversion: value has " ++ toString digits
    ++ " digits; use sys.set_int_max_str_digits() to increase the limit")

/-- What is told of a fault. -/
def Fault.description : Fault → String
  | .file e p => e.message p
  | .undecodable => "the bytes of a file are no text"
  | .invalidValue message => message
  | .overflow => "a number is out of range"
  | .wrongType => "a value is of the wrong type"
  | .missingKey => "a key is missing"
  | .missingAttribute => "a value cannot be used in this way"
  | .outOfRange => "a position is out of range"
  | .markup => "a closing tag matches no open tag"
  | .halfPair => "half of a surrogate pair is no character"
  | .limit => "a limit of the interpreter is exceeded"

/-- Why a text denotes no value: it is no document of its format, or a value in it cannot be
made. -/
inductive ReadError where
  | malformed
  | fault (f : Fault)
  deriving DecidableEq, Repr

/-- Why an operation fails: by an error of its own or by a fault. -/
inductive Failure (ε : Type) where
  | refused (e : ε)
  | fault (f : Fault)
  deriving DecidableEq, Repr

end MessagePlacement
