import FrameCycle.Decimal.Shortest
import FrameCycle.Text.Quoted

/-!
What can be wrong with a JSON document, and where. Readers locate a problem by the bytes that are
still ahead of it; the whole text turns that into a line and a column.
-/
namespace FrameCycle.Json

/-- What stands in a document where something else was expected. -/
inductive Found where
  | null
  | boolean (value : Bool)
  | integer (value : Int)
  | real (value : FloatShape)
  | string (value : List Char)
  | list
  | object
  | unitVariant
  deriving DecidableEq

namespace Found

def message : Found → String
  | null => "null"
  | boolean value => s!"boolean `{value}`"
  | integer value => s!"integer `{value}`"
  | real value => s!"floating point `{value.text Tie.toEven Decimal.compact}`"
  | string value => s!"string {Text.quoted value}"
  | list => "sequence"
  | object => "map"
  | unitVariant => "unit variant"

end Found

inductive Cause where
  | eofInValue
  | eofInList
  | eofInObject
  | eofInString
  | expectedValue
  | expectedIdent
  | expectedColon
  | expectedListEnd
  | expectedObjectEnd
  | keyNotString
  | trailingComma
  | trailingCharacters
  | invalidNumber
  | numberOutOfRange
  | invalidEscape
  | controlCharacter
  | loneSurrogate
  | brokenEscape
  | tooDeep
  | invalidType (found : Found) (expected : String)
  | invalidValue (found : Found) (expected : String)
  | unknownVariant (name : List Char) (known : List String)
  | missingField (name : String)
  | duplicateField (name : String)
  | invalidLength (length : Nat) (expected : String)
  deriving DecidableEq

namespace Cause

def message : Cause → String
  | eofInValue => "EOF while parsing a value"
  | eofInList => "EOF while parsing a list"
  | eofInObject => "EOF while parsing an object"
  | eofInString => "EOF while parsing a string"
  | expectedValue => "expected value"
  | expectedIdent => "expected ident"
  | expectedColon => "expected `:`"
  | expectedListEnd => "expected `,` or `]`"
  | expectedObjectEnd => "expected `,` or `\x7d`"
  | keyNotString => "key must be a string"
  | trailingComma => "trailing comma"
  | trailingCharacters => "trailing characters"
  | invalidNumber => "invalid number"
  | numberOutOfRange => "number out of range"
  | invalidEscape => "invalid escape"
  | controlCharacter => "control character (\\u0000-\\u001F) found while parsing a string"
  | loneSurrogate => "lone leading surrogate in hex escape"
  | brokenEscape => "unexpected end of hex escape"
  | tooDeep => "recursion limit exceeded"
  | invalidType found expected => s!"invalid type: {found.message}, expected {expected}"
  | invalidValue found expected => s!"invalid value: {found.message}, expected {expected}"
  | unknownVariant name known =>
      let choices := ", ".intercalate (known.map fun choice => s!"`{choice}`")
      s!"unknown variant `{String.ofList name}`, expected one of {choices}"
  | missingField name => s!"missing field `{name}`"
  | duplicateField name => s!"duplicate field `{name}`"
  | invalidLength length expected => s!"invalid length {length}, expected {expected}"

end Cause

/-- A problem while reading. -/
inductive Failure where
  /-- The bytes still ahead of the place of the problem. -/
  | placed (cause : Cause) (ahead : Nat)
  /-- The value is at fault as a whole: the list or object around it says where. -/
  | pending (cause : Cause) (rest : List Char)
  deriving DecidableEq

namespace Failure

/-- A problem behind what has been read. -/
def behind (cause : Cause) (rest : List Char) : Failure :=
  placed cause (Utf8.size rest)

/-- A problem with the byte that comes next. -/
def atNext (cause : Cause) (rest : List Char) : Failure :=
  placed cause (Utf8.size rest - 1)

end Failure

/-- Lines count from one; the column counts the bytes of the line up to the place. -/
structure Position where
  line : Nat
  column : Nat
  deriving DecidableEq

namespace Position

/-- The position `count` bytes further on in `text`. -/
def advance (position : Position) : (count : Nat) → (text : List Char) → Position
  | _, [] => position
  | count, c :: rest =>
      if count = 0 then position
      else if count < c.utf8Size then ⟨position.line, position.column + count⟩
      else if c = '\n' then advance ⟨position.line + 1, 0⟩ (count - 1) rest
      else advance ⟨position.line, position.column + c.utf8Size⟩ (count - c.utf8Size) rest

end Position

/-- Why a document was refused. -/
structure Error where
  cause : Cause
  position : Option Position
  deriving DecidableEq

namespace Error

def ofFailure (text : List Char) : Failure → Error
  | .placed cause ahead =>
      ⟨cause, some (Position.advance ⟨1, 0⟩ (Utf8.size text - ahead) text)⟩
  | .pending cause _ => ⟨cause, none⟩

def message (error : Error) : String :=
  match error.position with
  | none => error.cause.message
  | some position =>
      s!"{error.cause.message} at line {position.line} column {position.column}"

end Error

end FrameCycle.Json
