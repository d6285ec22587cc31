namespace SerialLink

/-! Runs: calls made one after the other on a state that they change. -/

variable {σ κ ρ : Type} {perform : σ → κ → ρ × σ}

/-- Makes the calls in order and lists each with what came of it. -/
def history (perform : σ → κ → ρ × σ) : σ → List κ → List (κ × ρ) × σ
  | state, [] => ([], state)
  | state, call :: calls =>
      let (reply, after) := perform state call
      let (later, last) := history perform after calls
      ((call, reply) :: later, last)

/-- What holds before any call, and after one more call whenever it held before that, holds of every
run. -/
theorem history_induction {motive : List (κ × ρ) → σ → Prop}
    (step : ∀ entries state call, motive entries state →
      motive (entries ++ [(call, (perform state call).1)]) (perform state call).2)
    {entries : List (κ × ρ)} {state : σ} (initially : motive entries state) (calls : List κ) :
    motive (entries ++ (history perform state calls).1) (history perform state calls).2 := by
  induction calls generalizing entries state with
  | nil => rwa [history, List.append_nil]
  | cons call calls ih =>
      have later := ih (step entries state call initially)
      rwa [List.append_assoc] at later

theorem history_run {motive : List (κ × ρ) → σ → Prop}
    (step : ∀ entries state call, motive entries state →
      motive (entries ++ [(call, (perform state call).1)]) (perform state call).2)
    {state : σ} (initially : motive [] state) (calls : List κ) :
    motive (history perform state calls).1 (history perform state calls).2 :=
  history_induction step initially calls

theorem history_calls (perform : σ → κ → ρ × σ) (state : σ) (calls : List κ) :
    (history perform state calls).1.map (·.1) = calls := by
  induction calls generalizing state with
  | nil => rfl
  | cons call calls ih => exact congrArg (call :: ·) (ih _)

theorem filterMap_first (f : α → Option β) (entry : α) (entries : List α) :
    (entry :: entries).filterMap f = (f entry).toList ++ entries.filterMap f := by
  cases found : f entry <;> simp [found]

theorem filterMap_concat (f : α → Option β) (entries : List α) (entry : α) :
    (entries ++ [entry]).filterMap f = entries.filterMap f ++ (f entry).toList := by
  rw [List.filterMap_append]
  cases found : f entry <;> simp [found]

/-- What every call keeps, a run keeps; what every call then answers, a run answers throughout. -/
theorem history_keeps (invariant : σ → Prop) (allowed : κ → ρ → Prop)
    (step : ∀ state call, invariant state →
      allowed call (perform state call).1 ∧ invariant (perform state call).2)
    {state : σ} (initially : invariant state) (calls : List κ) :
    (∀ entry ∈ (history perform state calls).1, allowed entry.1 entry.2) ∧
      invariant (history perform state calls).2 := by
  refine history_induction
    (motive := fun entries state => (∀ entry ∈ entries, allowed entry.1 entry.2) ∧ invariant state)
    ?_ ⟨List.forall_mem_nil _, initially⟩ calls
  rintro entries state call ⟨earlier, kept⟩
  obtain ⟨answered, next⟩ := step state call kept
  refine ⟨?_, next⟩
  intro entry member
  rcases List.mem_append.mp member with old | new
  · exact earlier entry old
  · rw [List.mem_singleton.mp new]
    exact answered

/-! Turns taken in an order of which nothing is known. -/

variable {turn : σ → κ → σ} {schedule : Nat → κ} {start : σ}

/-- The state after a number of turns. -/
def afterTurns (turn : σ → κ → σ) (schedule : Nat → κ) (start : σ) : Nat → σ
  | 0 => start
  | now + 1 => turn (afterTurns turn schedule start now) (schedule now)

/-- Some turns lead from one state to the other. -/
def Reaches (turn : σ → κ → σ) (before after : σ) : Prop :=
  ∃ turns : List κ, turns.foldl turn before = after

variable {before middle after : σ}

theorem Reaches.refl (turn : σ → κ → σ) (state : σ) : Reaches turn state state := ⟨[], rfl⟩

theorem reaches_turn (turn : σ → κ → σ) (state : σ) (due : κ) :
    Reaches turn state (turn state due) := ⟨[due], rfl⟩

theorem Reaches.trans (first : Reaches turn before middle) (second : Reaches turn middle after) :
    Reaches turn before after := by
  obtain ⟨turns, rfl⟩ := first
  obtain ⟨others, rfl⟩ := second
  exact ⟨turns ++ others, List.foldl_append⟩

theorem Reaches.keeps {invariant : σ → Prop} (reaches : Reaches turn before after)
    (step : ∀ state due, invariant state → invariant (turn state due))
    (initially : invariant before) : invariant after := by
  obtain ⟨turns, rfl⟩ := reaches
  induction turns generalizing before with
  | nil => exact initially
  | cons due turns ih => exact ih (step before due initially)

/-- With `law effort state` it takes no more than so much effort to come to rest: every turn in which
something happens takes some of it. -/
def Spends (turn : σ → κ → σ) (law : Nat → σ → Prop) : Prop :=
  ∀ effort state due, law effort state →
    turn state due = state ∨ ∃ less, less < effort ∧ law less (turn state due)

variable {law : Nat → σ → Prop} {effort now : Nat}

theorem Spends.keeps_turn {state : σ} (spends : Spends turn law) (lawful : law effort state)
    (due : κ) : ∃ left, law left (turn state due) := by
  rcases spends effort state due lawful with same | ⟨less, _, next⟩
  · rw [same]
    exact ⟨effort, lawful⟩
  · exact ⟨less, next⟩

theorem Spends.keeps (spends : Spends turn law) (lawful : law effort start) (now : Nat) :
    ∃ left, law left (afterTurns turn schedule start now) := by
  induction now with
  | zero => exact ⟨effort, lawful⟩
  | succ now ih =>
      obtain ⟨left, before⟩ := ih
      exact spends.keeps_turn before (schedule now)

/-- From some turn on nothing happens any more, and no effort can be spent. -/
theorem comes_to_rest (spends : Spends turn law)
    (lawful : law effort (afterTurns turn schedule start now)) :
    ∃ rest least, law least (afterTurns turn schedule start rest) ∧ ∀ later, rest ≤ later →
      afterTurns turn schedule start later = afterTurns turn schedule start rest ∧
        ∀ less, less < least →
          ¬law less (turn (afterTurns turn schedule start rest) (schedule later)) := by
  induction effort using Nat.strongRecOn generalizing now with
  | ind effort ih =>
      by_cases more : ∃ later less, now ≤ later ∧ less < effort ∧
          law less (afterTurns turn schedule start later)
      · obtain ⟨later, less, _, spent, next⟩ := more
        exact ih less spent next
      · -- Now is the least effort that is ever left, so no turn can take any of it.
        have still (later : Nat) (behind : now ≤ later) :
            afterTurns turn schedule start later = afterTurns turn schedule start now := by
          induction behind with
          | refl => rfl
          | @step later behind ih =>
              rw [afterTurns, ih]
              rcases spends _ _ (schedule later) lawful with same | ⟨less, spent, next⟩
              · exact same
              · rw [← ih] at next
                exact absurd ⟨later + 1, less, Nat.le_succ_of_le behind, spent, next⟩ more
        refine ⟨now, effort, lawful, ?_⟩
        intro later behind
        refine ⟨still later behind, ?_⟩
        intro less spent next
        rw [← still later behind] at next
        exact more ⟨later + 1, less, Nat.le_succ_of_le behind, spent, next⟩

end SerialLink
