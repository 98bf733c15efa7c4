import Duplex.Text.Quoted

/-!
What can be wrong with a JSON text that should hold a value of a known shape: the text breaks the
grammar, or it holds something else. Each defect has one wording, and shows at one byte of the text.
-/

namespace Duplex.Json

inductive Unfinished
  | value | object | list | string
  deriving Repr, DecidableEq

inductive Found
  | null
  | boolean (b : Bool)
  | integer (n : Int)
  | floating (text : String)
  | string (s : String)
  | sequence
  | map
  deriving Repr, DecidableEq

inductive Defect
  | unfinished (what : Unfinished)
  | expectedValue
  | expectedIdent
  | expectedColon
  | expectedListComma
  | expectedObjectComma
  | trailingCharacters
  | trailingComma
  | keyNotString
  | invalidNumber
  | numberOutOfRange
  | invalidEscape
  | loneSurrogate
  | unpairedSurrogate
  | controlCharacter
  | tooDeep
  | wrongType (found : Found) (expected : String)
  | wrongValue (found : Found) (expected : String)
  | wrongLength (length : Nat) (expected : String)
  | missingField (name : String)
  | duplicateField (name : String)
  | unknownVariant (name : String) (known : List String)
  | unusable (why : String)
  deriving Repr, DecidableEq

def Unfinished.message : Unfinished → String
  | .value => "a value"
  | .object => "an object"
  | .list => "a list"
  | .string => "a string"

def ticked (s : String) : String := "`" ++ s ++ "`"

def Found.message : Found → String
  | .null => "null"
  | .boolean b => "boolean " ++ ticked (if b then "true" else "false")
  | .integer n => "integer " ++ ticked (toString n)
  | .floating text => "floating point " ++ ticked text
  | .string s => "string " ++ Text.quoted s
  | .sequence => "sequence"
  | .map => "map"

def Defect.message : Defect → String
  | .unfinished what => "EOF while parsing " ++ what.message
  | .expectedValue => "expected value"
  | .expectedIdent => "expected ident"
  | .expectedColon => "expected " ++ ticked ":"
  | .expectedListComma => "expected " ++ ticked "," ++ " or " ++ ticked "]"
  | .expectedObjectComma => "expected " ++ ticked "," ++ " or " ++ ticked "\x7d"
  | .trailingCharacters => "trailing characters"
  | .trailingComma => "trailing comma"
  | .keyNotString => "key must be a string"
  | .invalidNumber => "invalid number"
  | .numberOutOfRange => "number out of range"
  | .invalidEscape => "invalid escape"
  | .loneSurrogate => "lone leading surrogate in hex escape"
  | .unpairedSurrogate => "unexpected end of hex escape"
  | .controlCharacter => "control character (\\u0000-\\u001F) found while parsing a string"
  | .tooDeep => "recursion limit exceeded"
  | .wrongType found expected => "invalid type: " ++ found.message ++ ", expected " ++ expected
  | .wrongValue found expected => "invalid value: " ++ found.message ++ ", expected " ++ expected
  | .wrongLength length expected =>
    "invalid length " ++ toString length ++ ", expected " ++ expected
  | .missingField name => "missing field " ++ ticked name
  | .duplicateField name => "duplicate field " ++ ticked name
  | .unknownVariant name known =>
    "unknown variant " ++ ticked name ++ ", expected one of " ++
      ", ".intercalate (known.map ticked)
  | .unusable why => why

structure Breach where
  defect : Defect
  unread : List Char
  bytes : Nat
  deriving Repr, DecidableEq

namespace Breach

def next (d : Defect) (unread : List Char) : Breach := ⟨d, unread, 1⟩

def behind (d : Defect) (unread : List Char) : Breach := ⟨d, unread, 0⟩

end Breach
end Duplex.Json
