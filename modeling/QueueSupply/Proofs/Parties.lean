import Mathlib.Data.List.Perm.Basic

set_option autoImplicit false

/-!
The parties of a machine as a list of which one goes on at a time. What is counted over the parties
changes by what that one party brings. What the finished calls have returned and what the parties
have in hand is gathered into one list, which changes in the same way, up to its order. What has
left a queue was obtained by somebody or thrown away.
-/

namespace QueueSupply.Parties

variable {P R B : Type} {parties : List P} {i : Nat} {old : P}

theorem countP_set (here : parties[i]? = some old) (f : P → Bool) (new : P) :
    (parties.set i new).countP f + (f old).toNat = parties.countP f + (f new).toNat := by
  induction parties generalizing i with
  | nil => simp at here
  | cons p parties ih =>
    cases i with
    | zero =>
      obtain rfl : p = old := by simpa using here
      cases ho : f p <;> cases hn : f new <;> simp [ho, hn]
    | succ i =>
      have rest := ih (i := i) (by simpa using here)
      simp only [List.set_cons_succ, List.countP_cons]
      omega

theorem filterMap_cons (f : P → Option B) (p : P) (parties : List P) :
    (p :: parties).filterMap f = (f p).toList ++ parties.filterMap f := by
  cases h : f p <;> simp [h]

theorem filterMap_set (here : parties[i]? = some old) (f : P → Option B) (new : P) :
    ((parties.set i new).filterMap f ++ (f old).toList).Perm
      (parties.filterMap f ++ (f new).toList) := by
  induction parties generalizing i with
  | nil => simp at here
  | cons p parties ih =>
    cases i with
    | zero =>
      obtain rfl : p = old := by simpa using here
      rw [List.set_cons_zero, filterMap_cons, filterMap_cons]
      calc List.Perm (((f new).toList ++ parties.filterMap f) ++ (f p).toList)
            ((f p).toList ++ ((f new).toList ++ parties.filterMap f)) := List.perm_append_comm
        List.Perm _ ((f p).toList ++ (parties.filterMap f ++ (f new).toList)) :=
          List.perm_append_comm.append_left _
        _ = ((f p).toList ++ parties.filterMap f) ++ (f new).toList :=
          (List.append_assoc _ _ _).symm
    | succ i =>
      have rest := ih (i := i) (by simpa using here)
      rw [List.set_cons_succ, filterMap_cons, filterMap_cons, List.append_assoc, List.append_assoc]
      exact rest.append_left _

def gathered (f : R → Option B) (g : P → Option B) (returned : List (Nat × R)) (parties : List P) :
    List B :=
  returned.filterMap (fun r => f r.2) ++ parties.filterMap g

variable {f : R → Option B} {g : P → Option B} {returned : List (Nat × R)} {new : P}

variable (f g returned new) in
theorem gathered_set (here : parties[i]? = some old) :
    (gathered f g returned parties ++ (g new).toList).Perm
      (gathered f g returned (parties.set i new) ++ (g old).toList) := by
  rw [gathered, gathered, List.append_assoc, List.append_assoc]
  exact (filterMap_set here g new).symm.append_left _

theorem gathered_log (i : Nat) (r : R) :
    (gathered f g returned parties ++ (f r).toList).Perm
      (gathered f g (returned ++ [(i, r)]) parties) := by
  have last : [(i, r)].filterMap (fun r => f r.2) = (f r).toList := by
    rw [filterMap_cons, List.filterMap_nil, List.append_nil]
  rw [gathered, gathered, List.filterMap_append, last, List.append_assoc, List.append_assoc]
  exact List.perm_append_comm.append_left _

theorem gathered_goOn (here : parties[i]? = some old) (same : g new = g old) :
    (gathered f g returned parties).Perm (gathered f g returned (parties.set i new)) := by
  have change := gathered_set f g returned new here
  rw [same] at change
  exact (List.perm_append_right_iff _).mp change

variable (f g returned new) in
theorem gathered_gain (here : parties[i]? = some old) (before : g old = none) :
    (gathered f g returned parties ++ (g new).toList).Perm
      (gathered f g returned (parties.set i new)) := by
  have change := gathered_set f g returned new here
  rw [before, Option.toList_none, List.append_nil] at change
  exact change

theorem gathered_return {r : R} (here : parties[i]? = some old) (before : g old = f r)
    (after : g new = none) :
    (gathered f g returned parties).Perm
      (gathered f g (returned ++ [(i, r)]) (parties.set i new)) := by
  have change := gathered_set f g returned new here
  rw [before, after, Option.toList_none, List.append_nil] at change
  exact change.trans (gathered_log i r)

theorem gathered_finish {r : R} (here : parties[i]? = some old) (before : g old = none)
    (after : g new = none) :
    (gathered f g returned parties ++ (f r).toList).Perm
      (gathered f g (returned ++ [(i, r)]) (parties.set i new)) := by
  have same : g new = g old := after.trans before.symm
  exact ((gathered_goOn here same).append_right _).trans (gathered_log i r)

/-- Of what has left, each with whether it was thrown away, what was not. -/
def obtained (gone : List (B × Bool)) : List B :=
  gone.filterMap fun g => if g.2 then none else some g.1

def thrown (gone : List (B × Bool)) : List B :=
  gone.filterMap fun g => if g.2 then some g.1 else none

theorem obtained_append (gone later : List (B × Bool)) :
    obtained (gone ++ later) = obtained gone ++ obtained later :=
  List.filterMap_append

theorem gone_perm (gone : List (B × Bool)) :
    (gone.map Prod.fst).Perm (obtained gone ++ thrown gone) := by
  induction gone with
  | nil => exact List.Perm.nil
  | cons g gone ih =>
    obtain ⟨b, thrownAway⟩ := g
    cases thrownAway with
    | false => exact ih.cons b
    | true => exact (ih.cons b).trans List.perm_middle.symm

end QueueSupply.Parties
