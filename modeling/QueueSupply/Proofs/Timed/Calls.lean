import QueueSupply.Proofs.Fifo.Steps

set_option autoImplicit false

namespace QueueSupply

variable {E : Type}

/-- The outcome of an offer as a call with a deadline tells it. -/
def late : Inserted E → Inserted E
  | .error (.full e) => .error (.timeout e)
  | r => r

def onceAccepted {Q : Type} : Inserted E × Q → Option (Inserted E × Q)
  | (.ok (), q) => some (.ok (), q)
  | (.error _, _) => none

structure PutsLikeOffers (bound : Nat) (q : AnyQueue E) : Prop where
  in_time : ∀ e t, q.put e (some (.millis t)) =
    Prod.map (fun r => .result (.inserted (late r))) id (Buffer.offer q e)
  refused : ∀ e err, (Buffer.offer q e).1 = .error err → err = .full e ∧ (Buffer.offer q e).2 = q
  of_room : (Buffer.toList q).length < bound → ∀ e wait, (Buffer.offer q e).1 = .ok () ∧
    q.put e wait = Prod.map (fun r => .result (.inserted r)) id (Buffer.offer q e)

structure TakesLikePolls (q : AnyQueue E) : Prop where
  in_time : ∀ t,
    q.take (some (.millis t)) = Prod.map (fun r => .result (.option r)) id (Buffer.poll q)
  of_held : Buffer.toList q ≠ [] → ∀ wait,
    q.take wait = Prod.map (fun r => .result (.option r)) id (Buffer.poll q)

/-- The steps of a session leave a queue of the same type, which stands for a list with the same
bound. -/
theorem QueueStep.exists_after [DecidableEq E] [Ordered E] {Q : Type} [Buffer Q E]
    {f : Q → AnyQueue E} {S : Q → Fifo E → Prop} {m : Manner} {q : Q} {l : Fifo E}
    (rep : Represents (Within f S) m) (start : S q l) (steps : List (QueueStep E)) :
    ∃ q' l', QueueStep.after (f q) steps = f q' ∧ S q' l' ∧ l'.bound = l.bound := by
  obtain ⟨calls, same⟩ := QueueStep.leads_after (f q) steps
  obtain ⟨q', eq, shows⟩ := (rep.run ⟨q, rfl, start⟩ calls).2
  exact ⟨q', _, same.trans eq, shows, Manner.run_bound m l calls⟩

namespace WaitingQueue

theorem putsLikeOffers (w : WaitingQueue E) : PutsLikeOffers w.capacity (.waiting w) where
  in_time e t := by
    rw [AnyQueue.put, putWithin?]
    change _ = Prod.map _ id (Prod.map id AnyQueue.waiting (w.offer e))
    rw [offer]
    cases w.isFull <;> rfl
  refused e err := by
    change (w.offer e).1 = _ → _ ∧ AnyQueue.waiting (w.offer e).2 = _
    rw [offer]
    cases w.isFull with
    | true =>
      intro refused
      cases refused
      exact ⟨rfl, rfl⟩
    | false =>
      intro accepted
      cases accepted
  of_room room e wait := by
    have free : w.isFull = false := isFull_eq_false room
    have accepted : w.offer e = (.ok (), w.append e) := offer_of_room room e
    change (w.offer e).1 = _ ∧ _ = Prod.map _ id (Prod.map id AnyQueue.waiting (w.offer e))
    rw [accepted]
    refine ⟨rfl, ?_⟩
    cases wait with
    | none => simp [AnyQueue.put, AnyQueue.settle, put?, free]
    | some t => cases t <;> simp [AnyQueue.put, AnyQueue.settle, put?, putWithin?, free]

theorem takesLikePolls (w : WaitingQueue E) : TakesLikePolls (.waiting w) where
  in_time t := by
    obtain ⟨capacity, contents⟩ := w
    cases contents <;> rfl
  of_held held wait := by
    obtain ⟨capacity, contents⟩ := w
    cases contents with
    | nil => exact absurd rfl held
    | cons e rest =>
      match wait with
      | none | some .beyondClock | some (.millis t) => rfl

theorem exists_after [DecidableEq E] [Ordered E] (n : Nat) (steps : List (QueueStep E)) :
    ∃ w : WaitingQueue E, QueueStep.after (QueueType.waiting n).fresh steps = .waiting w ∧
      w.capacity = n := by
  have rep : Represents (Within AnyQueue.waiting (@Shows E)) .waiting :=
    represents.within (AnyQueue.embeds (fun _ _ => rfl) fun _ _ => rfl)
  obtain ⟨w, l, eq, rfl, bound⟩ := QueueStep.exists_after rep (q := ofCapacity n) rfl steps
  exact ⟨w, eq, Option.some.inj bound⟩

end WaitingQueue

namespace SlotQueue

theorem putsLikeOffers (o : Option E) : PutsLikeOffers 1 (.slot (holding o)) where
  in_time e t := by cases o <;> rfl
  refused e err := by
    cases o with
    | none =>
      intro accepted
      cases accepted
    | some held =>
      intro refused
      cases refused
      exact ⟨rfl, rfl⟩
  of_room room e wait := by
    cases o with
    | none =>
      match wait with
      | none | some .beyondClock | some (.millis t) => exact ⟨rfl, rfl⟩
    | some held => exact absurd room (Nat.lt_irrefl 1)

theorem exists_after [DecidableEq E] [Ordered E] (steps : List (QueueStep E)) :
    ∃ o : Option E, QueueStep.after QueueType.slot.fresh steps = .slot (holding o) := by
  have rep : Represents (Within AnyQueue.slot (@Shows E)) .slot :=
    represents.within (AnyQueue.embeds (fun _ _ => rfl) fun _ _ => rfl)
  obtain ⟨s, l, eq, ⟨o, rfl, -⟩, -⟩ :=
    QueueStep.exists_after rep (q := empty) ⟨none, rfl, rfl⟩ steps
  exact ⟨o, eq⟩

end SlotQueue

end QueueSupply
