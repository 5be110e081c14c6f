import QueueSupply.Concurrent.Schedule

set_option autoImplicit false

/-!
How runs come to their end. A party that spins leaves the state as it is, and may do so for as long
as the others let it: such events do not count. What counts are the events that change the state,
and a run has come to its end where none of those that may happen is left.
-/

namespace QueueSupply.Schedule

variable {S V : Type} {step? : S → V → Option S} {may : S → V → Prop} {final : S → Prop}

def Changes (step? : S → V → Option S) (may : S → V → Prop) (s t : S) : Prop :=
  ∃ v, may s v ∧ step? s v = some t ∧ t ≠ s

/-- What can be told of two states apart tells them apart. -/
theorem ne_of_view {α : Type} {view : S → α} {s t : S} {a : α} (was : view s = a)
    (differs : view t ≠ a) : t ≠ s := by
  rintro rfl
  exact differs was

/-- Whatever the order of the events that may happen, only so many of them change the state, and the
state in which none of them does any more is a final one. -/
inductive Ends (step? : S → V → Option S) (may : S → V → Prop) (final : S → Prop) : S → Prop
  | intro {s : S} (rests : (∀ t, ¬ Changes step? may s t) → final s)
      (goesOn : ∀ t, Changes step? may s t → Ends step? may final t) : Ends step? may final s

theorem Ends.imp {final' : S → Prop} (weaker : ∀ s, final s → final' s) {s : S}
    (ends : Ends step? may final s) : Ends step? may final' s := by
  induction ends with
  | intro rests _ ih => exact .intro (fun still => weaker _ (rests still)) ih

/-- A run ends if every change brings it to a place of a lower number, and every place is that of a
final state or can be left. -/
theorem ends_of_places {At : Nat → S → Prop}
    (goesOn : ∀ n s t, At n s → Changes step? may s t → ∃ k < n, At k t)
    (rests : ∀ n s, At n s → final s ∨ ∃ t, Changes step? may s t) {n : Nat} {s : S}
    (place : At n s) : Ends step? may final s := by
  -- The induction is on the number of the place, which bounds the changes still to come.
  induction n using Nat.strongRecOn generalizing s with
  | _ n ih =>
    constructor
    · intro still
      exact (rests n s place).resolve_right fun ⟨t, change⟩ => still t change
    · intro t change
      obtain ⟨k, lt, next⟩ := goesOn n s t place change
      exact ih k lt next

end QueueSupply.Schedule
