import SerialLink.Settings.Basic
import SerialLink.Text.Blank
import SerialLink.Text.Numeral
import SerialLink.Text.Split

namespace SerialLink

/-! Settings written as one line of text.

A connection string is a list of parts with semicolons between them.  Each part is a name and a
value with an equals sign between them.  Blanks around parts, names and values do not count, nor
does the letter case of a name; a part of blanks says nothing.  The last value for a field is the
one that holds, names that nobody knows are passed over, and the first part that cannot be read
spoils the whole string.
-/

/-- What a name in a connection string stands for. -/
inductive Field where
  | port
  | baudRate
  | target
  | timeout
deriving DecidableEq, Repr

namespace Field

/-- The names of every field, in small letters. -/
def names : List (String × Field) :=
  [("port", .port), ("baud", .baudRate), ("baudrate", .baudRate), ("baud rate", .baudRate),
    ("target", .target), ("targetid", .target), ("target id", .target), ("timeout", .timeout),
    ("response timeout", .timeout)]

/-- A character in small letters.  The Kelvin sign and the capital I with a dot are the only
characters outside ASCII whose small form has an ASCII letter in it; the small forms of all others
stay outside ASCII, where no name has a character. -/
def fold (c : Char) : List Char :=
  if c = '\u212a' then ['k']
  else if c = '\u0130' then ['i', '\u0307']
  else [c.toLower]

/-- The field with a given name, in any letter case. -/
def ofName? (name : List Char) : Option Field :=
  names.lookup (String.ofList (name.flatMap fold))

end Field

/-- Why a connection string cannot be read. -/
inductive SettingsError where
  | noEquals (part : String)
  | emptyPort
  | baudRate (value : String)
  | target (value : String)
  | timeout (value : String)
deriving DecidableEq, Repr

def SettingsError.message : SettingsError → String
  | .noEquals part => "invalid key-value: " ++ part
  | .emptyPort => "port must not be empty"
  | .baudRate value => "invalid baud rate: " ++ value
  | .target value => "invalid target id: " ++ value
  | .timeout value => "invalid timeout: " ++ value

/-- One field and the value it gets. -/
inductive Setting where
  | port (name : String)
  | baudRate (rate : UInt32)
  | target (id : UInt8)
  | timeout (limit : Option Duration)
deriving DecidableEq, Repr

namespace Setting

/-- A target is a byte, in hexadecimal behind `0x` and in decimal otherwise. -/
def target? (value : List Char) : Option Nat :=
  match value with
  | '0' :: 'x' :: digits => Text.unsigned? 16 255 digits
  | '0' :: 'X' :: digits => Text.unsigned? 16 255 digits
  | digits => Text.unsigned? 10 255 digits

/-- A baud rate is a positive number of 32 bits. -/
def baudRate? (value : List Char) : Option Nat :=
  (Text.unsigned? 10 0xffffffff value).filter (0 < ·)

/-- A timeout is a number of seconds of 64 bits. -/
def seconds? (value : List Char) : Option Nat := Text.unsigned? 10 0xffffffffffffffff value

/-- Reads the value of a field.  A timeout of no seconds is no timeout. -/
def ofValue (field : Field) (value : List Char) : Except SettingsError Setting :=
  match field with
  | .port => if value.isEmpty then .error .emptyPort else .ok (.port (String.ofList value))
  | .baudRate =>
      match baudRate? value with
      | none => .error (.baudRate (String.ofList value))
      | some rate => .ok (.baudRate (UInt32.ofNat rate))
  | .target =>
      match target? value with
      | none => .error (.target (String.ofList value))
      | some id => .ok (.target (UInt8.ofNat id))
  | .timeout =>
      match seconds? value with
      | none => .error (.timeout (String.ofList value))
      | some seconds => .ok (.timeout (if seconds = 0 then none else some (.ofSeconds seconds)))

/-- Reads a trimmed part; an unknown name sets nothing. -/
def ofPart (part : List Char) : Except SettingsError (Option Setting) :=
  match Text.splitFirst? '=' part with
  | none => .error (.noEquals (String.ofList part))
  | some (name, value) =>
      match Field.ofName? (Text.trim name) with
      | none => .ok none
      | some field => (ofValue field (Text.trim value)).map some

end Setting

namespace Settings

def set (settings : Settings) : Setting → Settings
  | .port name => { settings with port := name }
  | .baudRate rate => { settings with baudRate := rate }
  | .target id => { settings with target := id }
  | .timeout limit => { settings with responseTimeout := limit }

/-- The parts of a connection string that say something. -/
def parts (text : List Char) : List (List Char) :=
  ((Text.splitAll ';' text).map Text.trim).filter (!·.isEmpty)

/-- Reads parts one after another, up to the first that cannot be read. -/
def readParts : Settings → List (List Char) → Except SettingsError Settings
  | settings, [] => .ok settings
  | settings, part :: rest =>
      match Setting.ofPart part with
      | .error error => .error error
      | .ok none => settings.readParts rest
      | .ok (some setting) => (settings.set setting).readParts rest

/-- The settings a connection string describes, beginning with the standard ones. -/
def ofConnectionString (text : String) : Except SettingsError Settings :=
  standard.readParts (parts text.toList)

theorem parts_append (front back : List Char) :
    parts (front ++ ';' :: back) = parts front ++ parts back := by
  simp only [parts, Text.splitAll_append, List.map_append, List.filter_append]

end Settings

end SerialLink
