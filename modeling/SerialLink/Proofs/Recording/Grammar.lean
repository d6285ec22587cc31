import Mathlib.Data.List.Forall2
import SerialLink.Proofs.Recording.Reloading

namespace SerialLink

/-! Which bytes are the file of a recording.

Every file is a row of whole records with at most one behind them that breaks off.  There is no other
way for a file to be wrong, so that what it holds and where it fails are both told by this division.
-/

variable {entry : Entry} {recording : Recording} {record file rest : Bytes} {records : List Bytes}
  {error : IoError} {cut count : Nat}

namespace Entry

theorem IsRecord.length_eq (isRecord : entry.IsRecord record) :
    record.length = 3 + entry.bytes.length := by
  obtain ⟨direction, low, high, rfl, _, _⟩ := isRecord
  simp only [List.length_cons]
  omega

/-- A record with the direction as it is written: one in the place of any other mark but zero. -/
def remarked : Bytes → Bytes
  | [] => []
  | direction :: rest => (if direction = 0 then 0 else 1) :: rest

/-- A length is stated by one pair of bytes only. -/
theorem statedBytes_eq {length : Nat} {low high : UInt8}
    (stated : length = low.toNat + 256 * high.toNat) :
    UInt8.ofNat (length % 256) = low ∧ UInt8.ofNat (length / 256) = high := by
  have lowBound := low.toNat_lt
  have remainder : length % 256 = low.toNat := by omega
  have quotient : length / 256 = high.toNat := by omega
  rw [remainder, quotient]
  exact ⟨UInt8.ofNat_toNat, UInt8.ofNat_toNat⟩

theorem toFile?_of_isRecord (isRecord : entry.IsRecord record) :
    entry.toFile? = some (remarked record) := by
  obtain ⟨direction, low, high, rfl, stated, directed⟩ := isRecord
  have bounded : entry.bytes.length ≤ maxLength := by
    have lowBound := low.toNat_lt
    have highBound := high.toNat_lt
    simp only [maxLength]
    omega
  obtain ⟨sameLow, sameHigh⟩ := statedBytes_eq stated
  rw [toFile?, if_pos bounded, sameLow, sameHigh, ← directed]
  by_cases host : direction = 0
  · simp only [remarked, host, bne_self_eq_false, Bool.false_eq_true, if_false, if_true]
  · simp only [remarked, bne_iff_ne, ne_eq, host, not_false_eq_true, if_true, if_false]

end Entry

namespace Recording

/-- What is left of a record that breaks off, and what is reported of it: the line ended in front of
the end of the length, or in the frame. -/
inductive BreaksOff : Bytes → IoError → Prop where
  | header {rest : Bytes} (begun : rest ≠ []) (short : rest.length < 3) :
      BreaksOff rest ⟨.unexpectedEof, none⟩
  | frame {direction low high : UInt8} {content : Bytes}
      (short : content.length < low.toNat + 256 * high.toNat) :
      BreaksOff (direction :: low :: high :: content) ⟨.unexpectedEof, some "early eof"⟩

theorem BreaksOff.kind_eq (broken : BreaksOff rest error) : error.kind = .unexpectedEof := by
  cases broken <;> rfl

theorem BreaksOff.ofFile_eq (broken : BreaksOff rest error) : ofFile rest = .error error := by
  cases broken with
  | header begun short =>
      match rest with
      | [] => contradiction
      | [_] | [_, _] => simp only [ofFile, IoError.ofKind]
      | _ :: _ :: _ :: _ => simp only [List.length_cons] at short; omega
  | frame short =>
      rw [ofFile, if_neg]
      rw [List.length_take]
      omega

theorem ofFile_records (spelled : List.Forall₂ Entry.IsRecord recording records) (rest : Bytes) :
    ofFile (records.flatten ++ rest) = (ofFile rest).map (recording ++ ·) := by
  induction spelled with
  | nil =>
      rw [List.flatten_nil, List.nil_append]
      cases ofFile rest <;> rfl
  | cons isRecord _ ih =>
      rw [List.flatten_cons, List.append_assoc, ofFile_record isRecord, ih]
      cases ofFile rest <;> rfl

/-- A file is whole records, and what is behind them breaks off. -/
theorem exists_records (file : Bytes) : ∃ recording records rest,
    List.Forall₂ Entry.IsRecord recording records ∧ file = records.flatten ++ rest ∧
      (rest = [] ∨ ∃ error, BreaksOff rest error) := by
  -- By length, as nothing else is known of what stands behind the first record.
  induction total : file.length using Nat.strongRecOn generalizing file with
  | _ size ih =>
      match file with
      | [] => exact ⟨[], [], [], .nil, rfl, .inl rfl⟩
      | [_] | [_, _] =>
          exact ⟨[], [], _, .nil, rfl, .inr ⟨_, .header (List.cons_ne_nil _ _) (by simp)⟩⟩
      | direction :: low :: high :: content =>
          by_cases short : content.length < low.toNat + 256 * high.toNat
          · exact ⟨[], [], _, .nil, rfl, .inr ⟨_, .frame short⟩⟩
          · let length := low.toNat + 256 * high.toNat
            have shorter : (content.drop length).length < size := by
              rw [List.length_drop, ← total]
              simp only [List.length_cons]
              omega
            obtain ⟨recording, records, rest, spelled, divided, last⟩ := ih _ shorter _ rfl
            have isRecord : Entry.IsRecord ⟨direction != 0, content.take length⟩
                (direction :: low :: high :: content.take length) :=
              ⟨direction, low, high, rfl, List.length_take_of_le (Nat.le_of_not_lt short), rfl⟩
            refine ⟨_, _, rest, .cons isRecord spelled, ?_, last⟩
            rw [List.flatten_cons, List.append_assoc, ← divided, List.cons_append,
              List.cons_append, List.cons_append, List.take_append_drop]

theorem ofFile_eq_ok_iff : ofFile file = .ok recording ↔
    ∃ records, List.Forall₂ Entry.IsRecord recording records ∧ records.flatten = file := by
  constructor
  · intro loaded
    obtain ⟨found, records, rest, spelled, rfl, last⟩ := exists_records file
    rw [ofFile_records spelled] at loaded
    rcases last with rfl | ⟨error, broken⟩
    · have same : found = recording := by simpa [ofFile, Except.map] using loaded
      subst same
      exact ⟨records, spelled, (List.append_nil _).symm⟩
    · rw [broken.ofFile_eq] at loaded
      contradiction
  · intro described
    obtain ⟨records, spelled, rfl⟩ := described
    have loaded := ofFile_records spelled []
    rw [List.append_nil] at loaded
    rw [loaded, ofFile, Except.map, List.append_nil]

theorem ofFile_eq_error_iff : ofFile file = .error error ↔
    ∃ recording records rest, List.Forall₂ Entry.IsRecord recording records ∧
      file = records.flatten ++ rest ∧ BreaksOff rest error := by
  constructor
  · intro failed
    obtain ⟨recording, records, rest, spelled, rfl, last⟩ := exists_records file
    rw [ofFile_records spelled] at failed
    rcases last with rfl | ⟨other, broken⟩
    · simp [ofFile, Except.map] at failed
    · rw [broken.ofFile_eq] at failed
      cases failed
      exact ⟨recording, records, rest, spelled, rfl, broken⟩
  · intro described
    obtain ⟨recording, records, rest, spelled, rfl, broken⟩ := described
    rw [ofFile_records spelled, broken.ofFile_eq]
    rfl

theorem toFile_records (spelled : List.Forall₂ Entry.IsRecord recording records) :
    recording.toFile = .ok (records.map Entry.remarked).flatten := by
  induction spelled with
  | nil => rfl
  | cons isRecord _ ih =>
      rw [toFile_cons (Entry.toFile?_of_isRecord isRecord), ih]
      rfl

/-- How many bytes a recording takes in a file. -/
def fileLength : Recording → Nat
  | [] => 0
  | entry :: rest => 3 + entry.bytes.length + fileLength rest

theorem length_flatten_records (spelled : List.Forall₂ Entry.IsRecord recording records) :
    records.flatten.length = recording.fileLength := by
  induction spelled with
  | nil => rfl
  | cons isRecord _ ih =>
      rw [List.flatten_cons, List.length_append, isRecord.length_eq, ih, fileLength]

/-- The frames whose records stand in front of a boundary are found again without the rest. -/
theorem ofFile_take_of_boundary (spelled : List.Forall₂ Entry.IsRecord recording records)
    (count : Nat) : ofFile (records.flatten.take (fileLength (recording.take count))) =
      .ok (recording.take count) := by
  have front := List.forall₂_take count spelled
  have divided : records.flatten = (records.take count).flatten ++ (records.drop count).flatten := by
    rw [← List.flatten_append, List.take_append_drop]
  rw [divided, List.take_left' (length_flatten_records front)]
  exact ofFile_eq_ok_iff.mpr ⟨_, front, rfl⟩

theorem breaksOff_take (isRecord : entry.IsRecord record) (begun : 0 < cut)
    (inside : cut < record.length) : ∃ error, BreaksOff (record.take cut) error := by
  rw [isRecord.length_eq] at inside
  obtain ⟨direction, low, high, rfl, stated, _⟩ := isRecord
  by_cases early : cut < 3
  · refine ⟨_, .header ?_ ?_⟩
    · rw [ne_eq, List.take_eq_nil_iff]
      simp only [reduceCtorEq, or_false]
      omega
    · rw [List.length_take]
      omega
  · obtain ⟨more, rfl⟩ := Nat.exists_eq_add_of_le (Nat.le_of_not_lt early)
    rw [Nat.add_comm, List.take_succ_cons, List.take_succ_cons, List.take_succ_cons]
    refine ⟨_, .frame ?_⟩
    rw [List.length_take]
    omega

/-- A cut that is no boundary falls into the first record that does not end in front of it. -/
theorem ofFile_take_of_inside (spelled : List.Forall₂ Entry.IsRecord recording records)
    (within : cut ≤ records.flatten.length)
    (inside : ∀ count, fileLength (recording.take count) ≠ cut) :
    ∃ error, ofFile (records.flatten.take cut) = .error error ∧ error.kind = .unexpectedEof := by
  induction spelled generalizing cut with
  | nil => exact absurd (Nat.le_zero.mp within).symm (inside 0)
  | @cons entry record recording records isRecord _ ih =>
      rw [List.flatten_cons, List.length_append] at within
      by_cases early : cut < record.length
      · obtain ⟨error, broken⟩ :=
          breaksOff_take isRecord (Nat.pos_of_ne_zero (inside 0).symm) early
        rw [List.flatten_cons, List.take_append_of_le_length (Nat.le_of_lt early)]
        exact ⟨error, broken.ofFile_eq, broken.kind_eq⟩
      · obtain ⟨more, rfl⟩ := Nat.exists_eq_add_of_le (Nat.le_of_not_lt early)
        have insideRest (count : Nat) : fileLength (recording.take count) ≠ more := by
          intro boundary
          apply inside (count + 1)
          rw [List.take_succ_cons, fileLength, isRecord.length_eq, boundary]
        obtain ⟨error, failed, kind⟩ := ih (by omega) insideRest
        refine ⟨error, ?_, kind⟩
        rw [List.flatten_cons, List.take_length_add_append, ofFile_record isRecord, failed]
        rfl

/-- Exactly the rows of records are files; saved again, a row has ones for the marks that are not
zero.  All else ends too early.  A saved file that is cut gives the frames in front of the cut if it
falls between two records, and ends too early everywhere else. -/
theorem ofFile_grammar (file : Bytes) :
    (∀ recording, ofFile file = .ok recording ↔
      ∃ records, List.Forall₂ Entry.IsRecord recording records ∧ records.flatten = file) ∧
    (∀ recording records, List.Forall₂ Entry.IsRecord recording records → records.flatten = file →
      toFile recording = .ok (records.map Entry.remarked).flatten) ∧
    ((¬∃ recording records, List.Forall₂ Entry.IsRecord recording records ∧
        records.flatten = file) →
      ∃ error, ofFile file = .error error ∧ error.kind = .unexpectedEof) ∧
    (∀ error, ofFile file = .error error ↔ ∃ recording records rest,
      List.Forall₂ Entry.IsRecord recording records ∧ file = records.flatten ++ rest ∧
        BreaksOff rest error) ∧
    ∀ recording : Recording, recording.toFile = .ok file →
      (∀ count, ofFile (file.take (fileLength (recording.take count))) =
        .ok (recording.take count)) ∧
      ∀ cut ≤ file.length, (∀ count, fileLength (recording.take count) ≠ cut) →
        ∃ error, ofFile (file.take cut) = .error error ∧ error.kind = .unexpectedEof := by
  refine ⟨fun _ => ofFile_eq_ok_iff, ?_, ?_, fun _ => ofFile_eq_error_iff, ?_⟩
  · intro recording records spelled _
    exact toFile_records spelled
  · intro noRow
    cases loaded : ofFile file with
    | ok recording => exact absurd ⟨recording, ofFile_eq_ok_iff.mp loaded⟩ noRow
    | error error =>
        obtain ⟨_, _, _, _, _, broken⟩ := ofFile_eq_error_iff.mp loaded
        exact ⟨error, rfl, broken.kind_eq⟩
  · intro recording saved
    obtain ⟨records, spelled, rfl⟩ := ofFile_eq_ok_iff.mp (ofFile_of_toFile saved)
    exact ⟨ofFile_take_of_boundary spelled, fun cut => ofFile_take_of_inside spelled⟩

-- A frame of one byte and one of none; without the last byte the second length is not whole.
example : ofFile [7, 1, 0, 42, 0, 0, 0] = .ok [⟨true, [42]⟩, ⟨false, []⟩] := by cbv

example : ofFile [7, 1, 0, 42, 0, 0] = .error ⟨.unexpectedEof, none⟩ := by cbv

end Recording

end SerialLink
