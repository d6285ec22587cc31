import SerialLink.Fault.Client
import SerialLink.Traffic

namespace SerialLink

/-! Links on which every frame that comes in decodes. -/

/-- Every frame that has come in was valid. -/
structure Traffic.Clean (traffic : Traffic) : Prop where
  corrupted_eq : traffic.corrupted = 0
  total_eq : traffic.total = traffic.valid

namespace Traffic

variable {traffic : Traffic}

theorem clean_zero : zero.Clean := ⟨rfl, rfl⟩

theorem Clean.recordSent (clean : traffic.Clean) : traffic.recordSent.Clean :=
  ⟨clean.corrupted_eq, clean.total_eq⟩

theorem Clean.recordTimeout (clean : traffic.Clean) : traffic.recordTimeout.Clean :=
  ⟨clean.corrupted_eq, clean.total_eq⟩

theorem Clean.recordValid (clean : traffic.Clean) : traffic.recordValid.Clean :=
  ⟨clean.corrupted_eq, congrArg (· + 1) clean.total_eq⟩

end Traffic

namespace LinkError

/-- Whatever came of an operation, it was not a frame that did not decode. -/
def Spared (outcome : Except LinkError α) : Prop :=
  ∀ error, outcome ≠ .error (.protocol error)

theorem spared_ok (value : α) : Spared (.ok value) := nofun

theorem spared_line (fault : IoError) : Spared (.error (.line fault) : Except LinkError α) := nofun

theorem spared_closed : Spared (.error .closed : Except LinkError α) := nofun

/-- A failure that is handed on stays what it was. -/
theorem Spared.relay {reason : LinkError} (spared : Spared (.error reason : Except LinkError α)) :
    Spared (.error reason : Except LinkError β) := by
  rintro error same
  cases same
  exact spared error rfl

theorem Spared.map {outcome : Except LinkError α} (spared : Spared outcome) (f : α → β) :
    Spared (outcome.map f) := by
  cases outcome with
  | error reason => exact spared.relay
  | ok value => exact spared_ok (f value)

end LinkError

namespace ClientError

/-- The same, however the client reports what went wrong on its link. -/
def Spared (outcome : Except ClientError α) : Prop :=
  ∀ error, outcome ≠ .error (.protocol error) ∧ outcome ≠ .error (.link (.protocol error))

theorem spared_ok (value : α) : Spared (.ok value) := fun _ => ⟨nofun, nofun⟩

theorem spared_responseTimeout : Spared (.error .responseTimeout : Except ClientError α) :=
  fun _ => ⟨nofun, nofun⟩

theorem spared_closed : Spared (.error .closed : Except ClientError α) :=
  fun _ => ⟨nofun, nofun⟩

theorem spared_ofLink {reason : LinkError}
    (spared : LinkError.Spared (.error reason : Except LinkError α)) :
    Spared (.error (.ofLink reason) : Except ClientError β) := by
  cases reason with
  | protocol error => exact absurd rfl (spared error)
  | line fault => exact fun _ => ⟨nofun, nofun⟩
  | closed => exact spared_closed

end ClientError

end SerialLink
