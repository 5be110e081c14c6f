import QueueSupply.Proofs.Fifo.Steps

set_option autoImplicit false

namespace QueueSupply

variable {E : Type}

inductive SequenceCall
  | next
  | remove
  | count

/-- A use of a queue that any number of draining sequences are on: a call through one of them, or a
call on the queue. -/
inductive Use (E : Type)
  | through (sequence : Nat) (c : SequenceCall)
  | direct (c : Call E)

namespace Use

def call : Use E → Call E
  | .through _ .next => .next
  | .through _ .remove => .remove
  | .through _ .count => .count
  | .direct c => c

def own : Use E → Call E
  | .through _ .next => .poll
  | .through _ .remove => .remove
  | .through _ .count => .count
  | .direct c => c

end Use

section Representation

variable {Q : Type} [Buffer Q E] {R : Q → Fifo E → Prop} {m : Manner} {q : Q} {l : Fifo E}

theorem Represents.call_eq_own (rep : Represents R m) (idle : PollsIdly R) (h : R q l) (u : Use E) :
    Buffer.call q u.call = Buffer.call q u.own := by
  cases u with
  | direct c => rfl
  | through i c =>
    cases c with
    | next => exact congrArg (Prod.map Result.option id) (rep.next_eq_poll idle h)
    | remove | count => rfl

theorem Represents.run_eq_own (rep : Represents R m) (idle : PollsIdly R) (uses : List (Use E)) :
    ∀ {q l}, R q l → Buffer.run q (uses.map Use.call) = Buffer.run q (uses.map Use.own) := by
  induction uses with
  | nil => exact fun _ => rfl
  | cons u uses ih =>
    intro q l h
    have same := rep.call_eq_own idle h u
    have after := (rep.call h u.call).2
    rw [List.map_cons, List.map_cons, Buffer.run, Buffer.run, ih after, same]

/-- Once an offer has been accepted, the next element is there. -/
theorem Represents.next_of_offer (rep : Represents R m) (h : R q l) {e : E}
    (accepted : (Buffer.offer q e).1 = .ok ()) :
    (Buffer.next (Buffer.offer q e).2).1 = some ((Buffer.toList q).headD e) := by
  obtain ⟨answer, after⟩ := rep.offer h e
  cases full : l.isFull with
  | true =>
    rw [accepted, Fifo.offer, if_pos full] at answer
    cases answer
  | false =>
    rw [Fifo.offer, if_neg (by simp [full])] at after
    rw [(rep.next after).1, rep.toList h]
    change (l.items ++ [e]).head? = some (l.items.headD e)
    cases l.items <;> rfl

end Representation

structure ServesSequences (type : QueueType) (q : AnyQueue E) : Prop where
  /-- Whatever the uses, each next element is the one that the queue polls. -/
  run_eq : ∀ uses : List (Use E),
    Buffer.run q (uses.map Use.call) = Buffer.run q (uses.map Use.own)
  of_held : ∀ e rest, Buffer.toList q = e :: rest →
    ((Buffer.next q).1 = some e ∧ Buffer.toList (Buffer.next q).2 = rest) ∧
      (Buffer.remove q).1 = .ok (some e) ∧ Buffer.toList (Buffer.remove q).2 = rest
  of_empty : Buffer.toList q = [] →
    (Buffer.next q).1 = none ∧ (type = .slot → (Buffer.remove q).1 = .ok none) ∧
      (type ≠ .slot → (Buffer.remove q).1 = .error .noSuchElement)
  after_offer : ∀ e, (Buffer.offer q e).1 = .ok () →
    (Buffer.next (Buffer.offer q e).2).1 = some ((Buffer.toList q).headD e)
  drains : ∃ q', Buffer.Drains q (Buffer.toList q) q' ∧ Buffer.toList q' = [] ∧
    Buffer.len q' = 0 ∧ (Buffer.toList q).length = Buffer.len q ∧
      Buffer.drain q = (Buffer.toList q, q') ∧ Buffer.count q = (Buffer.len q, q')

namespace QueueType

theorem failsEmpty {type : QueueType} (not_slot : type ≠ .slot) :
    type.manner.failsEmpty = true := by
  cases type with
  | slot => exact absurd rfl not_slot
  | null | ring | waiting | chain | inbox | plain => rfl

theorem servesSequences {type : QueueType} {R : AnyQueue E → Fifo E → Prop} {q : AnyQueue E}
    {l : Fifo E} (rep : Represents R type.manner) (idle : PollsIdly R) (h : R q l) :
    ServesSequences type q where
  run_eq uses := rep.run_eq_own idle uses h
  of_held e rest held := by
    rw [rep.toList h] at held
    have next := rep.next h
    have remove := rep.remove h
    rw [held] at next
    rw [Manner.fetch, held] at remove
    refine ⟨⟨next.1, ?_⟩, remove.1, ?_⟩
    · rw [rep.toList next.2, Fifo.pop, held]
      rfl
    · rw [rep.toList remove.2, Fifo.pop, held]
      rfl
  of_empty none := by
    rw [rep.toList h] at none
    have removed := (rep.remove h).1
    rw [Manner.fetch, none] at removed
    refine ⟨by rw [(rep.next h).1, none]; rfl, ?_, ?_⟩
    · rintro rfl
      exact removed
    · intro not_slot
      exact removed.trans (if_pos (failsEmpty not_slot))
  after_offer e accepted := rep.next_of_offer h accepted
  drains := by
    obtain ⟨q', drains, drained, final⟩ := rep.exists_drained h
    rw [rep.toList h]
    refine ⟨q', drains, rep.toList final, rep.len final, (rep.len h).symm, drained, ?_⟩
    rw [Buffer.count, drained, rep.len h]
    rfl

end QueueType

/-- After any steps on a new queue of any type, draining sequences do what the queue does: in every
row of uses the next element is the polled one, a removal takes the head, a sequence that has ended
goes on once an offer has been accepted, and one that is used to its end yields all that is held,
in order. A queue of whatever make is asked for its next element only if it does not say it is
empty. -/
theorem sequences_poll_and_remove [DecidableEq E] [Ordered E] (type : QueueType)
    (steps : List (QueueStep E)) :
    ServesSequences type (QueueStep.after (type.fresh : AnyQueue E) steps) ∧
      ∀ (Q F : Type) [Buffer Q F] (q : Q),
        (Buffer.isEmpty q = true → Buffer.next q = (none, q)) ∧
          (Buffer.isEmpty q = false → Buffer.next q = Buffer.poll q) := by
  obtain ⟨R, rep, idle, start⟩ := type.represented_idly (E := E)
  obtain ⟨calls, same⟩ := QueueStep.leads_after type.fresh steps
  constructor
  · rw [same]
    exact QueueType.servesSequences rep idle (rep.run start calls).2
  · exact fun Q F _ q => ⟨Buffer.next_of_isEmpty, Buffer.next_of_not_isEmpty⟩

/-- A removal between two elements takes the one in between. -/
example : (Buffer.run ((QueueType.ring 8).fresh : AnyQueue Nat)
    ([.direct (.offerAll [1, 2, 3]), .through 0 .next, .through 1 .remove,
      .through 0 .next].map Use.call)).1 =
    [.inserted (.ok ()), .option (some 1), .fetched (.ok (some 2)), .option (some 3)] := rfl

end QueueSupply
