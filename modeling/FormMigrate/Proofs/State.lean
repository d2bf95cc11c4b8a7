/-! Actions with a state: one after another, and leaving a part of the state as it is. -/

namespace FormMigrate

variable {σ α β ω : Type} {part : σ → ω}

theorem bind_run {x : StateM σ α} {f : α → StateM σ β} {s s' : σ} {a : α} (h : x s = (a, s'))
    : (x >>= f) s = f a s' := by
  show f (x s).1 (x s).2 = f a s'
  rw [h]

/-- Where two actions ran one after the other, each of them did. -/
theorem exists_of_bind_run {x : StateM σ α} {f : α → StateM σ β} {s later : σ} {b : β}
    (ran : (x >>= f) s = (b, later))
    : ∃ a s', x s = (a, s') ∧ f a s' = (b, later) :=
  ⟨(x s).1, (x s).2, rfl, ran⟩

/-- An action that leaves a part of its state as it is. -/
def OnlyLooks (part : σ → ω) (action : StateM σ α) : Prop := ∀ s, part (action s).2 = part s

namespace OnlyLooks

variable {action : StateM σ α}

theorem pure (a : α) : OnlyLooks part (pure a : StateM σ α) := fun _ => rfl

theorem bind {next : α → StateM σ β} (h : OnlyLooks part action)
    (h' : ∀ a, OnlyLooks part (next a))
    : OnlyLooks part (action >>= next) :=
  fun s => (h' _ _).trans (h s)

theorem run {s later : σ} {a : α} (h : OnlyLooks part action) (ran : action s = (a, later))
    : part later = part s := by
  have same := h s
  rwa [ran] at same

end OnlyLooks

end FormMigrate
