import ErSchema.Json.Basic
import ErSchema.Text.Quoted

/-!
# Faults of a JSON document

A reader stops at the first fault. A `Fault` holds its cause and its place: what was left to read
and how many bytes further the fault lies. `Fault.locate` turns it into an `Error`, which holds the
cause with a line and a column; both are counted over the bytes of the source.

* `advance_zero`, `advance_nil`: no bytes, or no source, leave a position where it is.
-/

namespace ErSchema.Json

/-! ## Causes -/

/-- What a reader found where it expected something else. -/
inductive Found where
  | null
  | boolean (value : Bool)
  | number (value : Number)
  | string (value : String)
  | sequence
  | map
  deriving Repr

/-- What a reader expects a value to be. -/
inductive Expected where
  | string
  | boolean
  | sequence
  | record (name : String)
  deriving DecidableEq, Repr

/-- Why a document is refused. -/
inductive Cause where
  | endInValue
  | endInList
  | endInObject
  | endInString
  | expectedValue
  | expectedWord
  | expectedColon
  | expectedItemEnd
  | expectedMemberEnd
  | keyNotString
  | trailingComma
  | trailingCharacters
  | invalidNumber
  | numberOutOfRange
  | invalidEscape
  | controlCharacter
  | loneSurrogate
  | unfinishedPair
  | tooDeep
  | wrongType (found : Found) (expected : Expected)
  | missingField (label : String)
  | duplicateField (label : String)
  | tooFewElements (present : Nat) (record : String) (fields : Nat)
  | notReference
  deriving Repr

/-- A text between grave accents. -/
def marked (s : String) : String := "\x60" ++ s ++ "\x60"

/-- A found value in a message. -/
def Found.text : Found → String
  | .null => "null"
  | .boolean b => "boolean " ++ marked (if b then "true" else "false")
  | .number (.integer i) => "integer " ++ marked (Number.integer i).text
  | .number (.floating x) => "floating point " ++ marked (Number.floating x).text
  | .string s => "string " ++ Text.quoted s
  | .sequence => "sequence"
  | .map => "map"

/-- An expected value in a message. -/
def Expected.text : Expected → String
  | .string => "a string"
  | .boolean => "a boolean"
  | .sequence => "a sequence"
  | .record name => "struct " ++ name

/-- The message of a cause. -/
def Cause.message : Cause → String
  | .endInValue => "EOF while parsing a value"
  | .endInList => "EOF while parsing a list"
  | .endInObject => "EOF while parsing an object"
  | .endInString => "EOF while parsing a string"
  | .expectedValue => "expected value"
  | .expectedWord => "expected ident"
  | .expectedColon => "expected " ++ marked ":"
  | .expectedItemEnd => "expected " ++ marked "," ++ " or " ++ marked "]"
  | .expectedMemberEnd => "expected " ++ marked "," ++ " or " ++ marked "\x7d"
  | .keyNotString => "key must be a string"
  | .trailingComma => "trailing comma"
  | .trailingCharacters => "trailing characters"
  | .invalidNumber => "invalid number"
  | .numberOutOfRange => "number out of range"
  | .invalidEscape => "invalid escape"
  | .controlCharacter => "control character (\\u0000-\\u001F) found while parsing a string"
  | .loneSurrogate => "lone leading surrogate in hex escape"
  | .unfinishedPair => "unexpected end of hex escape"
  | .tooDeep => "recursion limit exceeded"
  | .wrongType found expected => "invalid type: " ++ found.text ++ ", expected " ++ expected.text
  | .missingField label => "missing field " ++ marked label
  | .duplicateField label => "duplicate field " ++ marked label
  | .tooFewElements present record fields =>
    "invalid length " ++ toString present ++ ", expected struct " ++ record ++ " with "
      ++ toString fields ++ (if fields = 1 then " element" else " elements")
  | .notReference => "data did not match any variant of untagged enum EntityRef"

/-! ## Places -/

/-- A place in a source: the line, from 1, and the bytes before it on that line. -/
structure Position where
  line : Nat
  column : Nat
  deriving DecidableEq, Repr

/-- The position `n` bytes on, over the characters that follow; at their end it stays. -/
def Position.advance (p : Position) : Nat → List Char → Position
  | 0, _ => p
  | _ + 1, [] => p
  | n + 1, c :: cs =>
    if c = '\n' then advance ⟨p.line + 1, 0⟩ n cs
    else if c.utf8Size ≤ n + 1 then
      advance ⟨p.line, p.column + c.utf8Size⟩ (n + 1 - c.utf8Size) cs
    else ⟨p.line, p.column + (n + 1)⟩

/-- The bytes of a text in UTF-8. -/
def byteCount (cs : List Char) : Nat := cs.foldl (fun n c => n + c.utf8Size) 0

/-- A fault: its cause, what was left to read when it showed, and the bytes of that which belong
to it. -/
structure Fault where
  cause : Cause
  rest : List Char
  ahead : Nat
  deriving Repr

/-- A fault of a known source, by its position. -/
structure Error where
  cause : Cause
  position : Position
  deriving Repr

/-- The position of a fault in its source. It never lies beyond the end. -/
def Fault.locate (source : List Char) (f : Fault) : Error :=
  ⟨f.cause, Position.advance ⟨1, 0⟩ (byteCount source - byteCount f.rest + f.ahead) source⟩

/-- The message of an error. -/
def Error.message (e : Error) : String :=
  e.cause.message ++ " at line " ++ toString e.position.line ++ " column "
    ++ toString e.position.column

/-! ## Lemmas -/

theorem advance_zero (p : Position) (cs : List Char) : p.advance 0 cs = p := by
  cases cs <;> rfl

theorem advance_nil (p : Position) (n : Nat) : p.advance n [] = p := by
  cases n <;> rfl

end ErSchema.Json
