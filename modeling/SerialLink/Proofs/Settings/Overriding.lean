import Mathlib.Logic.Basic
import SerialLink.Settings.ConnectionString

namespace SerialLink

/-! Settings made one after the other: for every field the last one holds. -/

namespace Setting

/-- The field that a setting is for. -/
def field : Setting → Field
  | .port _ => .port
  | .baudRate _ => .baudRate
  | .target _ => .target
  | .timeout _ => .timeout

end Setting

namespace Settings

variable {start settings : Settings} {given : List Setting}

/-- What holds for a field. -/
def valueOf (settings : Settings) : Field → Setting
  | .port => .port settings.port
  | .baudRate => .baudRate settings.baudRate
  | .target => .target settings.target
  | .timeout => .timeout settings.responseTimeout

theorem field_valueOf (settings : Settings) (field : Field) :
    (settings.valueOf field).field = field := by
  cases field <;> rfl

theorem eq_of_valueOf (same : ∀ field, settings.valueOf field = start.valueOf field) :
    settings = start := by
  obtain ⟨port, baudRate, target, timeout⟩ := settings
  have samePort := Setting.port.inj (same .port)
  have sameRate := Setting.baudRate.inj (same .baudRate)
  have sameTarget := Setting.target.inj (same .target)
  have sameTimeout := Setting.timeout.inj (same .timeout)
  subst samePort sameRate sameTarget sameTimeout
  rfl

theorem valueOf_set (settings : Settings) (setting : Setting) (field : Field) :
    (settings.set setting).valueOf field =
      if setting.field = field then setting else settings.valueOf field := by
  cases setting <;> cases field <;> rfl

/-- The last setting for the field is what holds, and where there is none, what held at the start. -/
def Keeps (start settings : Settings) (given : List Setting) (field : Field) : Prop :=
  (∃ earlier later, given = earlier ++ settings.valueOf field :: later ∧
      ∀ other ∈ later, other.field ≠ field) ∨
    (∀ other ∈ given, other.field ≠ field) ∧ settings.valueOf field = start.valueOf field

theorem keeps_cons_iff (setting : Setting) (field : Field) :
    Keeps start settings (setting :: given) field ↔
      Keeps (start.set setting) settings given field := by
  constructor
  · intro keeps
    rcases keeps with ⟨earlier, later, split, others⟩ | ⟨others, kept⟩
    · cases earlier with
      | nil =>
          obtain ⟨rfl, rfl⟩ := List.cons.inj split
          refine .inr ⟨others, ?_⟩
          rw [valueOf_set, if_pos (field_valueOf settings field)]
      | cons first earlier =>
          obtain ⟨_, rfl⟩ := List.cons.inj split
          exact .inl ⟨earlier, later, rfl, others⟩
    · obtain ⟨different, rest⟩ := List.forall_mem_cons.mp others
      exact .inr ⟨rest, by rw [kept, valueOf_set, if_neg different]⟩
  · intro keeps
    rcases keeps with ⟨earlier, later, rfl, others⟩ | ⟨others, kept⟩
    · exact .inl ⟨setting :: earlier, later, rfl, others⟩
    · rw [valueOf_set] at kept
      split at kept
      · rename_i same
        exact .inl ⟨[], given, by rw [kept, List.nil_append], others⟩
      · rename_i different
        exact .inr ⟨List.forall_mem_cons.mpr ⟨different, others⟩, kept⟩

theorem foldl_set_iff : given.foldl set start = settings ↔
    ∀ field, Keeps start settings given field := by
  induction given generalizing start with
  | nil =>
      constructor
      · intro same field
        exact .inr ⟨List.forall_mem_nil _, by rw [← same, List.foldl_nil]⟩
      · intro keeps
        refine (eq_of_valueOf fun field => ?_).symm
        rcases keeps field with ⟨earlier, later, split, _⟩ | ⟨_, kept⟩
        · exact absurd split.symm (by simp)
        · exact kept
  | cons setting given ih =>
      rw [List.foldl_cons, ih]
      exact forall_congr' fun field => (keeps_cons_iff setting field).symm

end Settings

end SerialLink
