import SerialLink.Recording.File

namespace SerialLink

/-! What a file of a recording brings back.

A file has neither a count nor an end mark: a reader finds the next record only through the length in
the one before.
-/

variable {entry : Entry} {recording : Recording} {record file : Bytes}

/-- The record of an entry: the direction, the length with its low byte first, and the frame. -/
def Entry.IsRecord (entry : Entry) (record : Bytes) : Prop :=
  ∃ direction low high, record = direction :: low :: high :: entry.bytes ∧
    entry.bytes.length = low.toNat + 256 * high.toNat ∧ (direction != 0) = entry.fromDevice

/-- Two bytes state every length up to the longest. -/
theorem statedLength_eq {length : Nat} (bounded : length ≤ Entry.maxLength) :
    (UInt8.ofNat (length % 256)).toNat + 256 * (UInt8.ofNat (length / 256)).toNat = length := by
  have high : length / 256 < 256 := by
    simp only [Entry.maxLength] at bounded
    omega
  rw [UInt8.toNat_ofNat', UInt8.toNat_ofNat', Nat.mod_mod, Nat.mod_eq_of_lt high]
  exact Nat.mod_add_div length 256

theorem Entry.isRecord_of_toFile? (written : entry.toFile? = some record) :
    entry.IsRecord record := by
  unfold Entry.toFile? at written
  split at written
  · rename_i bounded
    cases written
    refine ⟨_, _, _, rfl, (statedLength_eq bounded).symm, ?_⟩
    cases entry.fromDevice <;> rfl
  · contradiction

theorem Entry.toFile?_eq_none_iff : entry.toFile? = none ↔ 65535 < entry.bytes.length := by
  unfold toFile?
  split
  · rename_i bounded
    exact iff_of_false (Option.some_ne_none _) (Nat.not_lt_of_le bounded)
  · rename_i beyond
    exact iff_of_true rfl (Nat.lt_of_not_le beyond)

namespace Recording

/-- Whatever stands behind a record, even what looks like one, is read on its own. -/
theorem ofFile_record (isRecord : entry.IsRecord record) (rest : Bytes) :
    ofFile (record ++ rest) = (ofFile rest).map (entry :: ·) := by
  obtain ⟨direction, low, high, rfl, length, direct⟩ := isRecord
  simp only [List.cons_append, ofFile]
  rw [← length, List.take_left, List.drop_left, if_pos rfl, direct]
  cases ofFile rest <;> rfl

theorem toFile_cons (written : entry.toFile? = some record) (rest : Recording) :
    toFile (entry :: rest) = (toFile rest).map (record ++ ·) := by
  simp only [toFile, written]
  cases toFile rest <;> rfl

/-- Saved frames are found again, in their order and with their directions. -/
theorem ofFile_of_toFile (saved : recording.toFile = .ok file) : ofFile file = .ok recording := by
  induction recording generalizing file with
  | nil =>
      cases saved
      simp only [ofFile]
  | cons entry rest ih =>
      cases written : entry.toFile? with
      | none => simp [toFile, written] at saved
      | some record =>
          rw [toFile_cons written] at saved
          cases others : toFile rest with
          | error error => simp [others, Except.map] at saved
          | ok records =>
              rw [others] at saved
              cases saved
              rw [ofFile_record (Entry.isRecord_of_toFile? written), ih others]
              rfl

theorem exists_toFile (bounded : ∀ entry ∈ recording, entry.bytes.length ≤ 65535) :
    ∃ file, recording.toFile = .ok file := by
  induction recording with
  | nil => exact ⟨[], rfl⟩
  | cons entry rest ih =>
      obtain ⟨within, others⟩ := List.forall_mem_cons.mp bounded
      obtain ⟨records, saved⟩ := ih others
      cases written : entry.toFile? with
      | none => exact absurd (Entry.toFile?_eq_none_iff.mp written) (Nat.not_lt_of_le within)
      | some record => exact ⟨record ++ records, by rw [toFile_cons written, saved]; rfl⟩

theorem toFile_of_long (long : ∃ entry ∈ recording, 65535 < entry.bytes.length) :
    recording.toFile = .error (.ofKind .invalidInput) := by
  obtain ⟨entry, member, beyond⟩ := long
  induction recording with
  | nil => cases member
  | cons first rest ih =>
      cases written : first.toFile? with
      | none => simp only [toFile, written]
      | some record =>
          rw [toFile_cons written]
          rcases List.mem_cons.mp member with rfl | later
          · rw [Entry.toFile?_eq_none_iff.mpr beyond] at written
            contradiction
          · rw [ih later]
            rfl

/-- A recording can be saved exactly if two bytes can state the length of every frame, and what has
been saved is loaded as it was. -/
theorem toFile_reloads (recording : Recording) :
    ((∃ file, recording.toFile = .ok file) ↔ ∀ entry ∈ recording, entry.bytes.length ≤ 65535) ∧
      (∀ file, recording.toFile = .ok file → ofFile file = .ok recording) ∧
      ((∃ entry ∈ recording, 65535 < entry.bytes.length) →
        recording.toFile = .error (.ofKind .invalidInput)) := by
  refine ⟨⟨?_, exists_toFile⟩, fun _ => ofFile_of_toFile, toFile_of_long⟩
  intro accepted entry member
  obtain ⟨file, saved⟩ := accepted
  apply Nat.le_of_not_lt
  intro beyond
  rw [toFile_of_long ⟨entry, member, beyond⟩] at saved
  contradiction

end Recording

end SerialLink
