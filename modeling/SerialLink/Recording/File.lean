import SerialLink.Fault.Io
import SerialLink.Recording.Log

namespace SerialLink

/-! The file form of a recording: for each entry a byte for the direction, the length in two bytes
with the low one first, and the frame. -/

namespace Entry

/-- The longest frame whose length two bytes can state. -/
def maxLength : Nat := 65535

/-- The bytes of one entry, if its length can be stated. -/
def toFile? (entry : Entry) : Option Bytes :=
  if entry.bytes.length ≤ maxLength then
    some ((if entry.fromDevice then 1 else 0) ::
      UInt8.ofNat (entry.bytes.length % 256) :: UInt8.ofNat (entry.bytes.length / 256) ::
      entry.bytes)
  else none

end Entry

namespace Recording

/-- The file of a recording.  One entry that is too long spoils the whole file. -/
def toFile : Recording → Except IoError Bytes
  | [] => .ok []
  | entry :: rest =>
      match entry.toFile? with
      | none => .error (.ofKind .invalidInput)
      | some record =>
          match toFile rest with
          | .error error => .error error
          | .ok records => .ok (record ++ records)

/-- Reads a file.  It may end only between two entries; any direction byte but zero means that the
frame came from the device. -/
def ofFile : Bytes → Except IoError Recording
  | [] => .ok []
  | direction :: low :: high :: content =>
      let length := low.toNat + 256 * high.toNat
      let frame := content.take length
      if frame.length = length then
        match ofFile (content.drop length) with
        | .error error => .error error
        | .ok rest => .ok (⟨direction != 0, frame⟩ :: rest)
      else .error ⟨.unexpectedEof, some "early eof"⟩
  | _ => .error (.ofKind .unexpectedEof)
termination_by file => file.length
decreasing_by
  simp only [List.length_drop, List.length_cons]
  omega

/-- What a reader reports about a file that is not there. -/
def missingFile : IoError := ⟨.notFound, some "No such file or directory (os error 2)"⟩

end Recording

end SerialLink
