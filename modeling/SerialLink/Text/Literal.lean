import SerialLink.Bytes
import SerialLink.Text.Combining
import SerialLink.Text.Hex
import SerialLink.Text.Ignorable
import SerialLink.Text.Printable

namespace SerialLink.Text

/-! Bytes and text as literals, and values as records, for descriptions meant for a person. -/

/-- A byte inside a byte literal: itself if it is visible, else an escape. -/
def byteEscape (byte : UInt8) : List Char :=
  if byte = 0x0a then ['\\', 'n']
  else if byte = 0x0d then ['\\', 'r']
  else if byte = 0x09 then ['\\', 't']
  else if byte = 0x00 then ['\\', '0']
  else if byte = 0x22 ∨ byte = 0x5c then ['\\', Char.ofNat byte.toNat]
  else if 0x20 ≤ byte ∧ byte ≤ 0x7e then [Char.ofNat byte.toNat]
  else '\\' :: 'x' :: hexPair byte

def byteLiteral (bytes : Bytes) : String :=
  String.ofList ('b' :: '"' :: bytes.flatMap byteEscape ++ ['"'])

/-- Whether a character stands for itself inside a text literal: it can be seen, and it can be told
from what is beside it. -/
def isVisible (c : Char) : Bool := isPrintable c && !isCombining c && !isIgnorable c

/-- A character inside a text literal. -/
def charEscape (c : Char) : List Char :=
  if c = '\n' then ['\\', 'n']
  else if c = '\r' then ['\\', 'r']
  else if c = '\t' then ['\\', 't']
  else if c = '\x00' then ['\\', '0']
  else if c = '"' ∨ c = '\\' then ['\\', c]
  else if isVisible c then [c]
  else '\\' :: 'u' :: '\x7b' :: hexDigits c.toNat ++ ['\x7d']

def textLiteral (text : String) : String :=
  String.ofList ('"' :: text.toList.flatMap charEscape ++ ['"'])

/-- A record with its fields in order; an open one has more than it shows. -/
def record (name : String) (fields : List (String × String)) (isOpen : Bool) : String :=
  let shown := fields.map fun (field, value) => field ++ ": " ++ value
  name ++ " \x7b " ++ ", ".intercalate (shown ++ if isOpen then [".."] else []) ++ " \x7d"

/-- A value that may be absent. -/
def optionally (describe : α → String) : Option α → String
  | none => "None"
  | some value => "Some(" ++ describe value ++ ")"

end SerialLink.Text
