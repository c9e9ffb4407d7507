import Rollout.Number.Binary64
import Rollout.Text.Quoted

/-!
# Why a JSON text is refused

A refusal has one cause and the place in the text where it was noticed. Causes of the first kind are
about the text itself; causes of the second kind are about a value that is not of the wanted shape,
and name what was found there.
-/

namespace Rollout.Json

/-- A number as it stands in a text: whole if it was written without fraction or exponent and fits
64 bits, a binary fraction otherwise. A negative zero is a fraction. -/
inductive Number where
  | unsigned (n : Nat)
  | signed (n : Int)
  | fraction (negative : Bool) (x : Binary64)
  deriving Repr, DecidableEq

/-- What was found where something else was wanted. -/
inductive Found where
  | null
  | bool (b : Bool)
  | number (n : Number)
  | string (s : String)
  | sequence
  | map
  deriving Repr, DecidableEq

inductive Cause where
  | eofInValue
  | eofInList
  | eofInObject
  | eofInString
  | expectedColon
  | expectedCommaOrBracket
  | expectedCommaOrBrace
  | expectedIdent
  | expectedValue
  | invalidEscape
  | invalidNumber
  | numberOutOfRange
  | controlCharacter
  | keyNotString
  | loneSurrogate
  | trailingComma
  | trailingCharacters
  | endOfHexEscape
  | wrongType (found : Found) (wanted : String)
  | wrongValue (found : Found) (wanted : String)
  | wrongLength (count : Nat) (wanted : String)
  | missingField (name : String)
  | duplicateField (name : String)
  deriving Repr, DecidableEq

/-- A cause with its place: lines count from one, columns are bytes since the last line feed. -/
structure Failure where
  cause : Cause
  line : Nat
  column : Nat
  deriving Repr, DecidableEq

/-- Fractions from `10 ^ -5` to below `10 ^ 16` are written positionally, all others with a signed
exponent. -/
def fractionLayout : Binary64.Layout := ⟨-5, 15⟩

def Found.describe : Found → String
  | .null => "null"
  | .bool true => "boolean `true`"
  | .bool false => "boolean `false`"
  | .number (.unsigned n) => "integer `" ++ toString n ++ "`"
  | .number (.signed n) => "integer `" ++ toString n ++ "`"
  | .number (.fraction negative x) =>
    "floating point `" ++ Binary64.display fractionLayout negative x ++ "`"
  | .string s => "string " ++ s.quoted
  | .sequence => "sequence"
  | .map => "map"

def Cause.message : Cause → String
  | .eofInValue => "EOF while parsing a value"
  | .eofInList => "EOF while parsing a list"
  | .eofInObject => "EOF while parsing an object"
  | .eofInString => "EOF while parsing a string"
  | .expectedColon => "expected `:`"
  | .expectedCommaOrBracket => "expected `,` or `]`"
  | .expectedCommaOrBrace => "expected `,` or `\x7d`"
  | .expectedIdent => "expected ident"
  | .expectedValue => "expected value"
  | .invalidEscape => "invalid escape"
  | .invalidNumber => "invalid number"
  | .numberOutOfRange => "number out of range"
  | .controlCharacter => "control character (\\u0000-\\u001F) found while parsing a string"
  | .keyNotString => "key must be a string"
  | .loneSurrogate => "lone leading surrogate in hex escape"
  | .trailingComma => "trailing comma"
  | .trailingCharacters => "trailing characters"
  | .endOfHexEscape => "unexpected end of hex escape"
  | .wrongType found wanted => "invalid type: " ++ found.describe ++ ", expected " ++ wanted
  | .wrongValue found wanted => "invalid value: " ++ found.describe ++ ", expected " ++ wanted
  | .wrongLength count wanted =>
    "invalid length " ++ toString count ++ ", expected " ++ wanted
  | .missingField name => "missing field `" ++ name ++ "`"
  | .duplicateField name => "duplicate field `" ++ name ++ "`"

def Failure.message (f : Failure) : String :=
  f.cause.message ++ " at line " ++ toString f.line ++ " column " ++ toString f.column

end Rollout.Json
