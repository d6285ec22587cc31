import SerialLink.Fault.Io
import SerialLink.Frame.Request
import SerialLink.Frame.Response
import SerialLink.Stream.Reassembler

namespace SerialLink

/-- A reassembler between two byte buffers: frames are encoded into `sink` and cut out of
`source`. -/
structure Loopback where
  reassembler : Reassembler
  source : Bytes
  sink : Bytes
deriving DecidableEq, Repr

namespace Loopback

def empty (layout : Layout) : Loopback := ⟨.empty layout, [], []⟩

def push (loopback : Loopback) (bytes : Bytes) : Loopback :=
  { loopback with source := loopback.source ++ bytes }

/-- Decodes one frame.  Bytes behind it stay in the source; when there is no frame, every byte of
the source has gone into the reassembler. -/
def decode (loopback : Loopback) : Option Bytes × Loopback :=
  let (frame, reassembler, source) := loopback.reassembler.next loopback.source
  (frame, { loopback with reassembler, source })

/-- A stream that ended although bytes of it could not be decoded. -/
def leftOver : IoError := ⟨.other, some "bytes remaining on stream"⟩

/-- Decodes one frame when no more bytes will come.  Without a frame, no bytes may be left. -/
def decodeLast (loopback : Loopback) : Except IoError (Option Bytes) × Loopback :=
  match loopback.decode with
  | (some frame, decoded) => (.ok (some frame), decoded)
  | (none, decoded) =>
      if decoded.source.isEmpty then (.ok none, decoded) else (.error leftOver, decoded)

def encodeRequest (loopback : Loopback) (request : Request) : Loopback :=
  { loopback with sink := loopback.sink ++ request.encode }

def encodeResponse (loopback : Loopback) (response : Response) : Loopback :=
  { loopback with sink := loopback.sink ++ response.encode }

/-- Moves everything encoded so far to the end of the source. -/
def turnAround (loopback : Loopback) : Loopback :=
  { loopback with source := loopback.source ++ loopback.sink, sink := [] }

def reset (loopback : Loopback) : Loopback :=
  { loopback with reassembler := loopback.reassembler.clear }

def withLayout (loopback : Loopback) (layout : Layout) : Loopback :=
  { loopback with reassembler := loopback.reassembler.withLayout layout }

end Loopback

end SerialLink
