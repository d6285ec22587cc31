import SerialLink.Line.Receiver
import SerialLink.Line.Sender

namespace SerialLink

/-- Both directions of one line.  They share the line and nothing else. -/
structure Duplex where
  receiver : Receiver
  sender : Sender
deriving DecidableEq, Repr

namespace Duplex

def start (layout : Layout) : Duplex := ⟨.start layout, .start⟩

def next (duplex : Duplex) (line : Line) (deadline : Deadline) : Attempt Delivery Duplex :=
  (duplex.receiver.next line deadline).mapOwner fun receiver => { duplex with receiver }

def feed (duplex : Duplex) (frame : Bytes) (line : Line) (deadline : Deadline) :
    Attempt (Except LinkError Unit) Duplex :=
  (duplex.sender.feed frame line deadline).mapOwner fun sender => { duplex with sender }

def send (duplex : Duplex) (frame : Bytes) (line : Line) (deadline : Deadline) :
    Attempt (Except LinkError Unit) Duplex :=
  (duplex.sender.send frame line deadline).mapOwner fun sender => { duplex with sender }

def flush (duplex : Duplex) (line : Line) (deadline : Deadline) :
    Attempt (Except LinkError Unit) Duplex :=
  (duplex.sender.flush line deadline).mapOwner fun sender => { duplex with sender }

def close (duplex : Duplex) (line : Line) (deadline : Deadline) :
    Attempt (Except LinkError Unit) Duplex :=
  (duplex.sender.close line deadline).mapOwner fun sender => { duplex with sender }

def describe (line : String) : String := Text.record "FrameStream" [("transport", line)] false

end Duplex

end SerialLink
