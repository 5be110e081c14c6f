import QueueSupply.Proofs.Endings
import QueueSupply.Proofs.Slot.Moves
import QueueSupply.Proofs.Timed.Calls

set_option autoImplicit false

namespace QueueSupply

open Schedule (Changes Ends ne_of_view)

variable {E : Type}

namespace SlotQueue

theorem offer_of_free {q : SlotQueue E} (free : q.word = emptyWord) (e : E) :
    q.offer e = (.ok (), ⟨fullWord, some e⟩) := by
  rw [offer, beginWrite?, exchange?, if_pos free]
  rfl

theorem offer_of_busy {q : SlotQueue E} (busy : q.word ≠ emptyWord) (e : E) :
    q.offer e = (.error (.full e), q) := by
  rw [offer, beginWrite?, exchange?, if_neg busy]

end SlotQueue

namespace SlotMachine

variable {m m' : SlotMachine E} {v : Event E}

/-- What an insertion comes to, told by what an offer would do; none if it spins for ever. -/
def Insist.outcome? (q : SlotQueue E) (e : E) : Insist → Option (Inserted E × SlotQueue E)
  | .once => some (q.offer e)
  | .always => onceAccepted (q.offer e)
  | .untilDeadline => some (Prod.map late id (q.offer e))

theorem outcome?_of_free {q : SlotQueue E} (free : q.word = SlotQueue.emptyWord) (insist : Insist)
    (e : E) : insist.outcome? q e = some (.ok (), ⟨SlotQueue.fullWord, some e⟩) := by
  cases insist <;> rw [Insist.outcome?, SlotQueue.offer_of_free free] <;> rfl

theorem outcome?_of_settled {q : SlotQueue E} (busy : q.word ≠ SlotQueue.emptyWord)
    {insist : Insist} {e : E} {err : QueueError E} (settled : Settled (insist, e) (.error err)) :
    insist.outcome? q e = some (.error err, q) := by
  cases settled with
  | full => rw [Insist.outcome?, SlotQueue.offer_of_busy busy]
  | timeout =>
    rw [Insist.outcome?, SlotQueue.offer_of_busy busy]
    rfl

def turnDown (m : SlotMachine E) (e : E) : Insist → Bool → SlotMachine E
  | .once, _ => m.refuse (.full e)
  | .untilDeadline, true => m.refuse (.timeout e)
  | _, _ => m

structure Produces (p : Producer E) (q : SlotQueue E) (inserts : List (Inserted E))
    (m : SlotMachine E) : Prop where
  producer : m.producer = p
  queue : m.queue = q
  inserts : m.inserts = inserts

def Alone (_ : SlotMachine E) (v : Event E) : Prop := ∃ expired, v = .producer expired

/-- The insertion has come to what an offer would, or it spins and has changed nothing. -/
def CameTo (insist : Insist) (e : E) (q : SlotQueue E) (before : List (Inserted E))
    (m : SlotMachine E) : Prop :=
  match insist.outcome? q e with
  | some (r, q') => Produces .idle q' (before ++ [r]) m
  | none => Produces (.trying insist e) q before m

/-- Where an insertion that is alone can be, in the order in which it gets there. -/
inductive Place (insist : Insist) (e : E) (q : SlotQueue E) (before : List (Inserted E)) :
    Nat → SlotMachine E → Prop
  | trying {m : SlotMachine E} (at_queue : Produces (.trying insist e) q before m) :
      Place insist e q before 3 m
  | writing {m : SlotMachine E} {slot : Option E} (free : q.word = SlotQueue.emptyWord)
      (at_queue : Produces (.writing e) ⟨SlotQueue.writingWord, slot⟩ before m) :
      Place insist e q before 2 m
  | publishing {m : SlotMachine E} (free : q.word = SlotQueue.emptyWord)
      (at_queue : Produces (.publishing e) ⟨SlotQueue.writingWord, some e⟩ before m) :
      Place insist e q before 1 m
  | ended {m : SlotMachine E} {r : Inserted E} {q' : SlotQueue E}
      (outcome : insist.outcome? q e = some (r, q'))
      (at_queue : Produces .idle q' (before ++ [r]) m) : Place insist e q before 0 m

section Producing

variable {insist : Insist} {e : E} {q : SlotQueue E} {before : List (Inserted E)}

theorem Place.goesOn {n : Nat} (place : Place insist e q before n m)
    (change : Changes step? Alone m m') : ∃ k < n, Place insist e q before k m' := by
  obtain ⟨v, ⟨expired, rfl⟩, step, differs⟩ := change
  have move := move_of_step? step
  cases place with
  | trying at_queue =>
    obtain ⟨producer, rfl, rfl⟩ := at_queue
    cases move with
    | retry => exact absurd rfl differs
    | refuse trying busy settled =>
      obtain ⟨rfl, rfl⟩ := Producer.trying.inj (producer.symm.trans trying)
      exact ⟨0, by decide, .ended (outcome?_of_settled busy settled) ⟨rfl, rfl, rfl⟩⟩
    | claim trying free =>
      obtain ⟨rfl, rfl⟩ := Producer.trying.inj (producer.symm.trans trying)
      exact ⟨2, by decide, .writing free ⟨rfl, rfl, rfl⟩⟩
    | write now | publish now => cases producer.symm.trans now
  | writing free at_queue =>
    obtain ⟨producer, queue, rfl⟩ := at_queue
    cases move with
    | retry => exact absurd rfl differs
    | refuse now | claim now | publish now => cases producer.symm.trans now
    | write writing =>
      obtain rfl := Producer.writing.inj (producer.symm.trans writing)
      exact ⟨1, by decide, .publishing free ⟨rfl, by rw [queue]; rfl, rfl⟩⟩
  | publishing free at_queue =>
    obtain ⟨producer, queue, rfl⟩ := at_queue
    cases move with
    | retry => exact absurd rfl differs
    | refuse now | claim now | write now => cases producer.symm.trans now
    | publish =>
      exact ⟨0, by decide, .ended (outcome?_of_free free insist e) ⟨rfl, by rw [queue]; rfl, rfl⟩⟩
  | ended outcome at_queue =>
    obtain ⟨producer, rfl, -⟩ := at_queue
    cases move with
    | retry => exact absurd rfl differs
    | refuse now | claim now | write now | publish now => cases producer.symm.trans now

theorem step?_producer_idle {expired : Bool} (idle : m.producer = .idle) :
    m.step? (.producer expired) = none := by
  change m.stepProducer? expired = none
  rw [stepProducer?, idle]

theorem step?_claim {expired : Bool} (trying : m.producer = .trying insist e)
    (free : m.queue.word = SlotQueue.emptyWord) :
    m.step? (.producer expired) = some { m with
      queue := { m.queue with word := SlotQueue.writingWord }
      producer := .writing e } := by
  change m.stepProducer? expired = _
  rw [stepProducer?, trying, SlotQueue.beginWrite?, SlotQueue.exchange?, if_pos free]

theorem step?_busy {expired : Bool} (trying : m.producer = .trying insist e)
    (busy : m.queue.word ≠ SlotQueue.emptyWord) :
    m.step? (.producer expired) = some (m.turnDown e insist expired) := by
  change m.stepProducer? expired = _
  rw [stepProducer?, trying, SlotQueue.beginWrite?, SlotQueue.exchange?, if_neg busy]
  cases insist with
  | once | always => rfl
  | untilDeadline => cases expired <;> rfl

theorem step?_write {expired : Bool} (writing : m.producer = .writing e) :
    m.step? (.producer expired) =
      some { m with queue := m.queue.write e, producer := .publishing e } := by
  change m.stepProducer? expired = _
  rw [stepProducer?, writing]

theorem step?_publish {expired : Bool} (publishing : m.producer = .publishing e) :
    m.step? (.producer expired) = some { m with
      queue := m.queue.publish
      producer := .idle
      inserts := m.inserts ++ [.ok ()]
      accepted := m.accepted ++ [e] } := by
  change m.stepProducer? expired = _
  rw [stepProducer?, publishing]

theorem Place.rests {n : Nat} (place : Place insist e q before n m) :
    CameTo insist e q before m ∨ ∃ m', Changes step? Alone m m' := by
  cases place with
  | trying at_queue =>
    obtain ⟨producer, rfl, rfl⟩ := at_queue
    by_cases free : m.queue.word = SlotQueue.emptyWord
    · exact .inr ⟨_, _, ⟨false, rfl⟩, step?_claim producer free, ne_of_view producer nofun⟩
    · cases insist with
      | once =>
        exact .inr ⟨_, _, ⟨false, rfl⟩, step?_busy producer free, ne_of_view producer nofun⟩
      | untilDeadline =>
        exact .inr ⟨_, _, ⟨true, rfl⟩, step?_busy producer free, ne_of_view producer nofun⟩
      | always =>
        left
        rw [CameTo, Insist.outcome?, SlotQueue.offer_of_busy free]
        exact ⟨producer, rfl, rfl⟩
  | writing free at_queue =>
    have was := at_queue.producer
    exact .inr ⟨_, _, ⟨false, rfl⟩, step?_write was, ne_of_view was nofun⟩
  | publishing free at_queue =>
    have was := at_queue.producer
    exact .inr ⟨_, _, ⟨false, rfl⟩, step?_publish was, ne_of_view was nofun⟩
  | ended outcome at_queue =>
    left
    rw [CameTo, outcome]
    exact at_queue

/-- An insertion that is alone comes to what an offer would, or spins without changing anything. -/
theorem ends_alone (begins : Produces (.trying insist e) q before m) :
    Ends step? Alone (CameTo insist e q before) m :=
  Schedule.ends_of_places (fun _ _ _ => Place.goesOn) (fun _ _ => Place.rests) (.trying begins)

end Producing

end SlotMachine

end QueueSupply
