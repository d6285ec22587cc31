import Mathlib.Data.List.Forall2
import Mathlib.Data.List.TakeWhile
import SerialLink.Text.Blank
import SerialLink.Text.Split

namespace SerialLink.Text

/-! What cutting at a separator and trimming come to, said of the text alone. -/

variable {separator c : Char} {text core front back : List Char} {pieces : List (List Char)}

/-- The pieces of a text, with one separator between any two and none inside. -/
structure IsCut (separator : Char) (text : List Char) (pieces : List (List Char)) : Prop where
  joined : [separator].intercalate pieces = text
  apart : ∀ piece ∈ pieces, separator ∉ piece
  nonempty : pieces ≠ []

theorem splitAll_eq_splitOn (separator : Char) (text : List Char) :
    splitAll separator text = text.splitOn separator := by
  induction text with
  | nil => rw [splitAll, List.splitOn_nil]
  | cons c rest ih =>
      rw [splitAll, List.splitOn_cons_eq_if_modifyHead, ← ih]
      by_cases same : c = separator
      · simp only [same, BEq.rfl, if_true]
      · simp only [same, beq_iff_eq, if_false]
        cases parts : splitAll separator rest with
        | nil => exact absurd parts (splitAll_ne_nil separator rest)
        | cons part parts => rfl

theorem splitAll_apart (separator : Char) (text : List Char) :
    ∀ piece ∈ splitAll separator text, separator ∉ piece := by
  induction text with
  | nil =>
      intro piece member
      rw [List.mem_singleton.mp member]
      exact List.not_mem_nil
  | cons c rest ih =>
      unfold splitAll
      split
      · exact List.forall_mem_cons.mpr ⟨List.not_mem_nil, ih⟩
      · rename_i different
        split
        · exact List.forall_mem_cons.mpr ⟨by simpa using Ne.symm different,
            List.forall_mem_nil _⟩
        · rename_i part parts found
          obtain ⟨first, others⟩ := List.forall_mem_cons.mp (found ▸ ih)
          exact List.forall_mem_cons.mpr
            ⟨by simpa using ⟨Ne.symm different, first⟩, others⟩

/-- There is one way to cut a text. -/
theorem isCut_iff : IsCut separator text pieces ↔ pieces = splitAll separator text := by
  constructor
  · intro cut
    obtain ⟨rfl, apart, nonempty⟩ := cut
    rw [splitAll_eq_splitOn, List.splitOn_intercalate separator apart nonempty]
  · intro same
    subst same
    refine ⟨?_, splitAll_apart separator text, splitAll_ne_nil separator text⟩
    rw [splitAll_eq_splitOn, List.intercalate_splitOn]

theorem splitFirst?_eq_none_iff : splitFirst? separator text = none ↔ separator ∉ text := by
  induction text with
  | nil => exact iff_of_true rfl List.not_mem_nil
  | cons c rest ih =>
      unfold splitFirst?
      split
      · rename_i same
        exact iff_of_false (Option.some_ne_none _) (fun absent => absent (by simp [same]))
      · rename_i different
        rw [List.mem_cons, not_or]
        split
        · rename_i nothing
          exact iff_of_true rfl ⟨Ne.symm different, ih.mp nothing⟩
        · rename_i found
          refine iff_of_false (Option.some_ne_none _) (fun absent => ?_)
          rw [ih.mpr absent.2] at found
          contradiction

theorem splitFirst?_append (absent : separator ∉ front) (back : List Char) :
    splitFirst? separator (front ++ separator :: back) = some (front, back) := by
  induction front with
  | nil => simp only [List.nil_append, splitFirst?, if_true]
  | cons c rest ih =>
      rw [List.mem_cons, not_or] at absent
      obtain ⟨different, later⟩ := absent
      simp only [List.cons_append, splitFirst?, if_neg (Ne.symm different), ih later]

theorem splitFirst?_eq_some_iff : splitFirst? separator text = some (front, back) ↔
    text = front ++ separator :: back ∧ separator ∉ front := by
  constructor
  · exact splitFirst?_eq_some
  · intro described
    obtain ⟨rfl, absent⟩ := described
    exact splitFirst?_append absent back

/-- What is between the blanks at both ends of a text. -/
structure IsTrimmed (text core : List Char) : Prop where
  between : ∃ before after, text = before ++ core ++ after ∧
    (∀ c ∈ before, isBlank c = true) ∧ ∀ c ∈ after, isBlank c = true
  first : ∀ c, core.head? = some c → isBlank c = false
  last : ∀ c, core.getLast? = some c → isBlank c = false

theorem isBlank_of_head?_dropWhile (first : (text.dropWhile isBlank).head? = some c) :
    isBlank c = false := by
  have stopped := List.head?_dropWhile_not isBlank text
  rwa [first] at stopped

theorem dropWhile_append (blanks : ∀ c ∈ front, isBlank c = true)
    (stops : ∀ c, core.head? = some c → isBlank c = false) :
    (front ++ core).dropWhile isBlank = core := by
  rw [List.dropWhile_append_of_pos blanks]
  cases core with
  | nil => rfl
  | cons c rest =>
      have visible := stops c rfl
      exact List.dropWhile_cons_of_neg (by rw [visible]; exact Bool.false_ne_true)

theorem isTrimmed_trim (text : List Char) : IsTrimmed text (trim text) := by
  have leading : text.takeWhile isBlank ++ text.dropWhile isBlank = text :=
    List.takeWhile_append_dropWhile
  have trailing : (text.dropWhile isBlank).reverse.takeWhile isBlank ++
      (text.dropWhile isBlank).reverse.dropWhile isBlank = (text.dropWhile isBlank).reverse :=
    List.takeWhile_append_dropWhile
  have whole : trim text ++ ((text.dropWhile isBlank).reverse.takeWhile isBlank).reverse =
      text.dropWhile isBlank := by
    rw [trim, ← List.reverse_append, trailing, List.reverse_reverse]
  refine ⟨⟨text.takeWhile isBlank,
    ((text.dropWhile isBlank).reverse.takeWhile isBlank).reverse, ?_, ?_, ?_⟩, ?_, ?_⟩
  · rw [List.append_assoc, whole, leading]
  · intro c member
    exact List.mem_takeWhile_imp member
  · intro c member
    exact List.mem_takeWhile_imp (List.mem_reverse.mp member)
  · intro c first
    have leads : (text.dropWhile isBlank).head? = some c := by
      rw [← whole, List.head?_append, first, Option.some_or]
    exact isBlank_of_head?_dropWhile leads
  · intro c last
    rw [trim, List.getLast?_reverse] at last
    exact isBlank_of_head?_dropWhile last

theorem isTrimmed_iff : IsTrimmed text core ↔ core = trim text := by
  constructor
  · intro trimmed
    obtain ⟨⟨before, after, rfl, leading, trailing⟩, first, last⟩ := trimmed
    have behind : ((before ++ core ++ after).dropWhile isBlank).reverse.dropWhile isBlank =
        core.reverse := by
      cases core with
      | nil =>
          have nothing : (before ++ [] ++ after).dropWhile isBlank = [] := by
            rw [List.append_nil, List.dropWhile_eq_nil_iff]
            intro c member
            rcases List.mem_append.mp member with early | late
            · exact leading c early
            · exact trailing c late
          rw [nothing]
          rfl
      | cons c rest =>
          have visible : ∀ d, (c :: rest ++ after).head? = some d → isBlank d = false := first
          rw [List.append_assoc, dropWhile_append leading visible, List.reverse_append]
          refine dropWhile_append (fun c member => trailing c (List.mem_reverse.mp member)) ?_
          intro c final
          rw [List.head?_reverse] at final
          exact last c final
    rw [trim, behind, List.reverse_reverse]
  · intro same
    rw [same]
    exact isTrimmed_trim text

theorem forall₂_isTrimmed_iff {trimmed : List (List Char)} :
    List.Forall₂ IsTrimmed pieces trimmed ↔ trimmed = pieces.map trim := by
  induction pieces generalizing trimmed with
  | nil => exact List.forall₂_nil_left_iff
  | cons piece rest ih =>
      rw [List.forall₂_cons_left_iff]
      constructor
      · intro described
        obtain ⟨core, cores, first, others, rfl⟩ := described
        rw [isTrimmed_iff.mp first, ih.mp others, List.map_cons]
      · intro same
        subst same
        exact ⟨_, _, isTrimmed_trim piece, ih.mpr rfl, List.map_cons⟩

theorem isTrimmed_self (first : ∀ c, core.head? = some c → isBlank c = false)
    (last : ∀ c, core.getLast? = some c → isBlank c = false) : IsTrimmed core core :=
  ⟨⟨[], [], (List.append_nil _).symm, List.forall_mem_nil _, List.forall_mem_nil _⟩, first, last⟩

theorem IsTrimmed.surround {before after : List Char} (trimmed : IsTrimmed text core)
    (leading : ∀ c ∈ before, isBlank c = true) (trailing : ∀ c ∈ after, isBlank c = true) :
    IsTrimmed (before ++ text ++ after) core := by
  obtain ⟨⟨early, late, rfl, blanks, blanksToo⟩, first, last⟩ := trimmed
  refine ⟨⟨before ++ early, late ++ after, ?_, ?_, ?_⟩, first, last⟩
  · simp only [List.append_assoc]
  · exact List.forall_mem_append.mpr ⟨leading, blanks⟩
  · exact List.forall_mem_append.mpr ⟨blanksToo, trailing⟩

/-- Blanks around a text are lost with those it has. -/
theorem trim_surrounded {before after : List Char} (leading : ∀ c ∈ before, isBlank c = true)
    (trailing : ∀ c ∈ after, isBlank c = true) (text : List Char) :
    trim (before ++ text ++ after) = trim text :=
  (isTrimmed_iff.mp ((isTrimmed_trim text).surround leading trailing)).symm

/-- Around a separator that is no blank each side loses its outer blanks only. -/
theorem trim_append_separator (visible : isBlank separator = false) (front back : List Char) :
    ∃ name value, trim (front ++ separator :: back) = name ++ separator :: value ∧
      (∀ c ∈ name, c ∈ front) ∧ trim name = trim front ∧ trim value = trim back := by
  let name := front.dropWhile isBlank
  let value := (back.reverse.dropWhile isBlank).reverse
  have leading : front.takeWhile isBlank ++ name = front := List.takeWhile_append_dropWhile
  have trailing : value ++ (back.reverse.takeWhile isBlank).reverse = back := by
    rw [← List.reverse_append, List.takeWhile_append_dropWhile, List.reverse_reverse]
  have blanks : ∀ c ∈ front.takeWhile isBlank, isBlank c = true :=
    fun c member => List.mem_takeWhile_imp member
  have blanksToo : ∀ c ∈ (back.reverse.takeWhile isBlank).reverse, isBlank c = true :=
    fun c member => List.mem_takeWhile_imp (List.mem_reverse.mp member)
  have whole : IsTrimmed (front ++ separator :: back) (name ++ separator :: value) := by
    refine ⟨⟨_, _, ?_, blanks, blanksToo⟩, ?_, ?_⟩
    · rw [List.append_assoc, List.append_assoc, List.cons_append, trailing, ← List.append_assoc,
        leading]
    · intro c first
      rw [List.head?_append] at first
      cases start : name.head? with
      | none =>
          rw [start] at first
          cases first
          exact visible
      | some d =>
          rw [start] at first
          cases first
          exact isBlank_of_head?_dropWhile start
    · intro c last
      rw [List.getLast?_append, List.getLast?_cons, Option.some_or] at last
      cases ends : value.getLast? with
      | none =>
          rw [ends] at last
          cases last
          exact visible
      | some d =>
          rw [ends] at last
          cases last
          rw [List.getLast?_reverse] at ends
          exact isBlank_of_head?_dropWhile ends
  refine ⟨name, value, (isTrimmed_iff.mp whole).symm,
    fun c member => (List.dropWhile_sublist _).subset member, ?_, ?_⟩
  · have same := trim_surrounded blanks (List.forall_mem_nil _) name
    rwa [leading, List.append_nil, eq_comm] at same
  · have same := trim_surrounded (List.forall_mem_nil _) blanksToo value
    rwa [List.nil_append, trailing, eq_comm] at same

end SerialLink.Text
