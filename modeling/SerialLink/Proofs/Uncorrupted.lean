import SerialLink.Proofs.Device.Bench
import SerialLink.Proofs.Polled.Calls

namespace SerialLink

/-! Nothing that comes off a stream as a frame is malformed.

Decoders check the length of a frame again.  As the reassembler has cut the stream by that length,
the check cannot fail, whoever reads the stream and however it is read.
-/

theorem Reassembler.response_decodes {stream frame : Bytes}
    (member : frame ∈ ((empty .response).feedAll stream).1) :
    ∃ response, Response.decode frame = .ok response ∧
      Response.decodeInPlace frame = .ok response := by
  obtain ⟨_, cut⟩ := feedAll_consistent (consistent_empty .response) stream
  obtain ⟨response, decoded⟩ := Response.decode_of_isFrame (cut.complete frame member)
  exact ⟨response, decoded, (Response.decodeInPlace_eq_decode frame).trans decoded⟩

theorem Reassembler.request_decodes {stream frame : Bytes}
    (member : frame ∈ ((empty .request).feedAll stream).1) :
    ∃ request, Request.decode frame = .ok request := by
  obtain ⟨_, cut⟩ := feedAll_consistent (consistent_empty .request) stream
  exact Request.decode_of_isFrame (cut.complete frame member)

theorem Client.allows_send {settings : Settings} {request : Request}
    {outcome : Except ClientError Response} (allowed : (Call.send request).Allows settings outcome) :
    ClientError.Spared outcome := by
  rcases allowed with spared | ⟨error, refused, _⟩
  · exact spared
  · cases refused

/-- Every frame decodes, for each of the readers of a stream and for all that they can be made to
do.  A device is looked at twice: as its hosts see it, and link by link with the turns in any
order. -/
theorem received_frames_decode :
    (∀ stream, ∀ frame ∈ ((Reassembler.empty .response).feedAll stream).1,
        ∃ response, Response.decode frame = .ok response ∧
          Response.decodeInPlace frame = .ok response) ∧
      (∀ stream, ∀ frame ∈ ((Reassembler.empty .request).feedAll stream).1,
        ∃ request, Request.decode frame = .ok request) ∧
      (∀ queue calls,
        let run := history Session.perform (.start queue) calls
        (∀ entry ∈ run.1, entry.2.Spared) ∧ run.2.traffic.Clean) ∧
      (∀ line calls,
        let run := history Connection.perform (.start, line) calls
        (∀ entry ∈ run.1, entry.2.Spared) ∧ run.2.1.traffic.Clean) ∧
      (∀ settings line calls,
        let run := history Client.perform (.start settings, line) calls
        (∀ request deadline outcome, ((.send request, deadline), some outcome) ∈ run.1 →
            ClientError.Spared outcome) ∧
          (∀ entry ∈ run.1, ∀ outcome, entry.2 = some outcome →
            entry.1.1.Allows settings outcome) ∧
          run.2.1.connection.traffic.Clean) ∧
      (∀ setup calls,
        let run := history Bench.perform (.start setup) calls
        (∀ entry ∈ run.1, Bench.Reply.Allowed entry.1 entry.2) ∧
          (∀ entry ∈ run.2.device.recording, entry.Understood) ∧
          ∀ labelled ∈ run.2.clients, labelled.2.connection.traffic.Clean) ∧
      ∀ setup capacity turns,
        ∀ entry ∈ (history (Link.turn setup) (.fresh capacity) turns).1,
          ∀ logged, entry.2 = some logged → logged.Understood := by
  refine ⟨fun _ _ => Reassembler.response_decodes, fun _ _ => Reassembler.request_decodes,
    ?_, ?_, ?_, ?_, Link.history_understood⟩
  · intro queue calls run
    obtain ⟨spared, sound⟩ := Session.history_sound queue calls
    exact ⟨spared, sound.traffic⟩
  · intro line calls run
    obtain ⟨spared, sound⟩ := Connection.history_sound line calls
    exact ⟨spared, sound.traffic⟩
  · intro settings line calls run
    obtain ⟨allowed, sound, _⟩ := Client.history_sound settings line calls
    refine ⟨?_, allowed, sound.traffic⟩
    intro request deadline outcome member
    exact Client.allows_send (allowed _ member outcome rfl)
  · intro setup calls run
    obtain ⟨allowed, sound⟩ := Bench.history_sound setup calls
    refine ⟨allowed, ?_, fun labelled member => (sound.clients labelled member).traffic⟩
    intro entry member
    exact sound.device.log entry (List.mem_reverse.mp member)

end SerialLink
