import SerialLink.Frame.Response

namespace SerialLink.Sample

/-! Small inputs that exercise a link. -/

/-- A request to target one with five payload bytes. -/
def pingRequest : Bytes := [0x01, 0x01, 0x05, 0x00, 0x01, 0x02, 0x03, 0x04, 0x05]

/-- A response with two payload bytes. -/
def response : Bytes := [0x0a, 0x02, 0x00, 0xff, 0xee]

def emptyResponse : Bytes := [0x05, 0x00, 0x00]

def responseStream (responses : List Response) : Bytes := (responses.map Response.encode).flatten

end SerialLink.Sample
