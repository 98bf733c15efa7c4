import Duplex.Octets
import Duplex.Text.Hidden

/-!
Text between double quotes, for people to read: the quote and the backslash are marked by a
backslash, the common blanks have their letters, and what cannot be seen is given by number.
-/

namespace Duplex.Text

def hexNat (n : Nat) : String := String.ofList (Nat.toDigits 16 n)

def quotedChar (c : Char) : String :=
  if c = '"' then "\\\""
  else if c = '\\' then "\\\\"
  else if c = '\n' then "\\n"
  else if c = '\r' then "\\r"
  else if c = '\t' then "\\t"
  else if c = '\x00' then "\\0"
  else if isHidden c then "\\u\x7b" ++ hexNat c.toNat ++ "\x7d"
  else c.toString

def quoted (s : String) : String := "\"" ++ String.join (s.toList.map quotedChar) ++ "\""

def flag (b : Bool) : String := if b then "true" else "false"

def optional : Option String → String
  | none => "None"
  | some s => "Some(" ++ s ++ ")"

def quotedOption (s : Option String) : String := optional (s.map quoted)

def quotedList (l : List String) : String := "[" ++ ", ".intercalate (l.map quoted) ++ "]"

def record (name : String) (fields : List (String × String)) : String :=
  name ++ " \x7b " ++ ", ".intercalate (fields.map fun f => f.1 ++ ": " ++ f.2) ++ " \x7d"

def openRecord (name : String) (fields : List (String × String)) : String :=
  name ++ " \x7b " ++ ", ".intercalate (fields.map fun f => f.1 ++ ": " ++ f.2) ++ ", .. \x7d"

end Duplex.Text
