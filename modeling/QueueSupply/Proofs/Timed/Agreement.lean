import QueueSupply.Proofs.Timed.Handover
import QueueSupply.Proofs.Timed.SlotHandover

set_option autoImplicit false

namespace QueueSupply

open Schedule (Ends)

variable {E : Type}

inductive Removal
  | poll
  | remove
  | clear

inductive Insertion (E : Type)
  | offer (e : E)
  | put (e : E) (wait : Option Timeout)

def WaitingMachine.Returned.result : WaitingMachine.Returned E → Result E
  | .inserted _ r => .inserted r
  | .option e => .option e
  | .cleared => .cleared

namespace Removal

def call : Removal → Call E
  | .poll => .poll
  | .remove => .remove
  | .clear => .clear

def ask : Removal → WaitingMachine.Ask E
  | .poll => .poll
  | .remove => .poll
  | .clear => .clear

def returned (x : E) : Removal → WaitingMachine.Returned E
  | .poll => .option (some x)
  | .remove => .option (some x)
  | .clear => .cleared

def leaves (rest : List E) : Removal → List E
  | .poll => rest
  | .remove => rest
  | .clear => []

theorem length_leaves_le (removal : Removal) (rest : List E) :
    (removal.leaves rest).length ≤ rest.length := by
  cases removal with
  | poll | remove => exact Nat.le_refl _
  | clear => exact Nat.zero_le _

def tells : Removal → WaitingMachine.Returned E → Result E
  | .remove, .option got => .fetched (orNoSuchElement got)
  | _, r => r.result

def tellsSlot (got : Option E) : Removal → Result E
  | .poll => .option got
  | .remove => .fetched (.ok got)
  | .clear => .cleared

end Removal

namespace Insertion

def element : Insertion E → E
  | .offer e => e
  | .put e _ => e

def step : Insertion E → QueueStep E
  | .offer e => .call (.offer e)
  | .put e wait => .put e wait

end Insertion

def SlotMachine.Insist.toPut : Option Timeout → SlotMachine.Insist
  | some (.millis _) => .untilDeadline
  | _ => .always

namespace WaitingMachine

def Ask.toPut (e : E) : Option Timeout → Ask E
  | some (.millis _) => .putWithin e
  | _ => .put e

def Ask.toTake : Option Timeout → Ask E
  | some (.millis _) => .takeWithin
  | _ => .take

def Ask.toInsert : Insertion E → Ask E
  | .offer e => .offer e
  | .put e wait => .toPut e wait

section Looking

variable {w : WaitingQueue E} {wait : Option Timeout} {x : E} {rest : List E}

theorem look_toPut_full (full : w.isFull = true) (e : E) :
    look w false (.toPut e wait) = unchanged w .wait := by
  match wait with
  | none | some .beyondClock | some (.millis t) => exact if_pos full

theorem look_toPut_room (room : w.isFull = false) (e : E) :
    look w false (.toPut e wait) = insert w e := by
  match wait with
  | none | some .beyondClock | some (.millis t) => exact if_neg (by simp [room])

theorem look_toInsert (room : w.isFull = false) (insertion : Insertion E) :
    look w false (.toInsert insertion) = insert w insertion.element := by
  cases insertion with
  | offer e => exact if_neg (by simp [room])
  | put e wait => exact look_toPut_room room e

theorem look_toTake_none (nothing : w.contents = []) :
    look w false (.toTake wait) = unchanged w .wait := by
  match wait with
  | none | some .beyondClock =>
    change look w false .take = _
    rw [look, poll_nil nothing]
  | some (.millis t) =>
    change look w false .takeWithin = _
    rw [look, poll_nil nothing]
    rfl

theorem look_toTake_held (held : w.contents = x :: rest) :
    look w false (.toTake wait) =
      ⟨.signal .notFull (.option (some x)), { w with contents := rest }, [], [(x, false)]⟩ := by
  match wait with
  | none | some .beyondClock =>
    change look w false .take = _
    rw [look, poll_cons held]
  | some (.millis t) =>
    change look w false .takeWithin = _
    rw [look, poll_cons held]

theorem look_removal (held : w.contents = x :: rest) (removal : Removal) :
    (look w false removal.ask).queue = { w with contents := removal.leaves rest } ∧
      ∃ all, (look w false removal.ask).exit = .owe all (removal.returned x) := by
  cases removal with
  | poll | remove =>
    rw [Removal.ask, look, poll_cons held]
    exact ⟨rfl, false, rfl⟩
  | clear => exact ⟨rfl, true, rfl⟩

theorem awaits_toPut (e : E) : (Ask.toPut e wait).awaits = some .notFull := by
  match wait with
  | none | some .beyondClock | some (.millis t) => rfl

theorem awaits_toTake : (Ask.toTake wait : Ask E).awaits = some .notEmpty := by
  match wait with
  | none | some .beyondClock | some (.millis t) => rfl

/-- At a full queue a put waits for the room that a removal makes. -/
theorem handover_put (full : w.contents.length = w.capacity) (held : w.contents = x :: rest) (e : E)
    (removal : Removal) :
    Handover (.toPut e wait) removal.ask .notFull w { w with contents := removal.leaves rest }
      (WaitingQueue.append { w with contents := removal.leaves rest } e) (removal.returned x)
      (.inserted e (.ok ())) := by
  have no_room : w.isFull = true := decide_eq_true (Nat.le_of_eq full.symm)
  have room : (WaitingQueue.mk w.capacity (removal.leaves rest)).isFull = false := by
    apply WaitingQueue.isFull_eq_false
    have le := removal.length_leaves_le rest
    rw [held, List.length_cons] at full
    change (removal.leaves rest).length < w.capacity
    omega
  obtain ⟨queue, exit⟩ := look_removal held removal
  have own : look _ false (.toPut e wait) = insert _ e := look_toPut_room room e
  exact {
    awaits := awaits_toPut e
    waits := look_toPut_full no_room e
    otherQueue := queue
    otherExit := .inr ⟨rfl, exit⟩
    ownQueue := by rw [own]; rfl
    ownExit := ⟨.notEmpty, by rw [own]; rfl⟩ }

/-- At an empty queue a taking waits for the element that an insertion brings. -/
theorem handover_take (nothing : w.contents = []) (room : 0 < w.capacity)
    (insertion : Insertion E) :
    Handover (.toTake wait) (.toInsert insertion) .notEmpty w (w.append insertion.element) w
      (.inserted insertion.element (.ok ())) (.option (some insertion.element)) := by
  have free : w.isFull = false := by
    apply WaitingQueue.isFull_eq_false
    rwa [nothing]
  have held : (w.append insertion.element).contents = [insertion.element] := by
    rw [WaitingQueue.append, nothing]
    rfl
  have other := look_toInsert free insertion
  have own : look _ false (.toTake wait) = _ := look_toTake_held held
  exact {
    awaits := awaits_toTake
    waits := look_toTake_none nothing
    otherQueue := by rw [other]; rfl
    otherExit := .inl (by rw [other]; rfl)
    ownQueue := by rw [own, ← nothing]; rfl
    ownExit := ⟨.notFull, by rw [own]⟩ }

end Looking

/-- In whatever order the events of the two calls come, both return, and what they return and what
the queue then holds is what the session's step gives, which makes the calls one after the other. -/
def MeetAs [DecidableEq E] [Ordered E] (w : WaitingQueue E) (own other : Ask E)
    (tells : Returned E → Result E) (step : QueueStep E) : Prop :=
  Ends step? (OnceEach own other)
    (fun m => ∃ r s, BothReturned m.queue r s m ∧ step.perform (.waiting w) =
      (.both (.result s.result) (.result (tells r)), .waiting m.queue))
    (start w 2)

/-- A put that waits at the queue and a removal end as the removal followed by the put. -/
def PutMeetsRemoval [DecidableEq E] [Ordered E] (w : WaitingQueue E) : Prop :=
  ∀ (e : E) (wait : Option Timeout) (removal : Removal),
    MeetAs w (.toPut e wait) removal.ask removal.tells (.putWhile e wait (.call removal.call))

def TakeMeetsInsertion [DecidableEq E] [Ordered E] (w : WaitingQueue E) : Prop :=
  ∀ (wait : Option Timeout) (insertion : Insertion E),
    MeetAs w (.toTake wait) (.toInsert insertion) Returned.result (.takeWhile wait insertion.step)

theorem Handover.meetAs [DecidableEq E] [Ordered E] {own other : Ask E} {c : Condition}
    {before between after : WaitingQueue E} {r s : Returned E} {tells : Returned E → Result E}
    {step : QueueStep E} (h : Handover own other c before between after r s)
    (performed : step.perform (.waiting before) =
      (.both (.result s.result) (.result (tells r)), .waiting after)) :
    MeetAs before own other tells step := by
  refine (ends_handover h).imp ?_
  intro m returned
  have queue : m.queue = after := by
    obtain ⟨_, pair, _⟩ := returned
    exact pair.queue
  exact ⟨r, s, queue ▸ returned, queue ▸ performed⟩

end WaitingMachine

section Performing

variable {w : WaitingQueue E} {x : E} {rest : List E}

theorem put_of_room (room : w.contents.length < w.capacity) (e : E) (wait : Option Timeout) :
    (AnyQueue.waiting w).put e wait = (.result (.inserted (.ok ())), .waiting (w.append e)) := by
  refine (w.putsLikeOffers.of_room room e wait).2.trans ?_
  change Prod.map _ id (Prod.map id AnyQueue.waiting (w.offer e)) = _
  rw [WaitingQueue.offer_of_room room e]
  rfl

theorem take_of_held (held : w.contents = x :: rest) (wait : Option Timeout) :
    (AnyQueue.waiting w).take wait =
      (.result (.option (some x)), .waiting { w with contents := rest }) := by
  have there : w.contents ≠ [] := by
    rw [held]
    exact List.cons_ne_nil x rest
  refine (w.takesLikePolls.of_held there wait).trans ?_
  change Prod.map _ id (Prod.map id AnyQueue.waiting w.poll) = _
  rw [WaitingMachine.poll_cons held]
  rfl

variable [DecidableEq E] [Ordered E]

theorem perform_putWhile {q q' : AnyQueue E} {other : QueueStep E} {r : Reply E}
    (first : other.perform q = (r, q')) (e : E) (wait : Option Timeout) :
    (QueueStep.putWhile e wait other).perform q =
      (.both (q'.put e wait).1 r, (q'.put e wait).2) := by
  rw [QueueStep.perform, first]

theorem perform_takeWhile {q q' : AnyQueue E} {other : QueueStep E} {r : Reply E}
    (first : other.perform q = (r, q')) (wait : Option Timeout) :
    (QueueStep.takeWhile wait other).perform q =
      (.both (q'.take wait).1 r, (q'.take wait).2) := by
  rw [QueueStep.perform, first]

theorem perform_removal (held : w.contents = x :: rest) (removal : Removal) :
    (QueueStep.call removal.call).perform (.waiting w) =
      (.result (removal.tells (removal.returned x)),
        .waiting { w with contents := removal.leaves rest }) := by
  obtain ⟨capacity, contents⟩ := w
  obtain rfl : contents = x :: rest := held
  cases removal <;> rfl

theorem perform_insertion (room : w.contents.length < w.capacity) (insertion : Insertion E) :
    insertion.step.perform (.waiting w) =
      (.result (.inserted (.ok ())), .waiting (w.append insertion.element)) := by
  cases insertion with
  | offer e =>
    change Prod.map _ id (Prod.map _ id (Prod.map id AnyQueue.waiting (w.offer e))) = _
    rw [WaitingQueue.offer_of_room room e]
    rfl
  | put e wait => exact put_of_room room e wait

theorem put_meets_removal (full : w.contents.length = w.capacity) (room : 0 < w.capacity) :
    WaitingMachine.PutMeetsRemoval w := by
  intro e wait removal
  obtain ⟨x, rest, held⟩ := List.exists_cons_of_length_pos (full.symm ▸ room)
  refine (WaitingMachine.handover_put full held e removal).meetAs ?_
  have made : (removal.leaves rest).length < w.capacity := by
    have le := removal.length_leaves_le rest
    rw [held, List.length_cons] at full
    omega
  rw [perform_putWhile (perform_removal held removal), put_of_room made]
  rfl

theorem take_meets_insertion (nothing : w.contents = []) (room : 0 < w.capacity) :
    WaitingMachine.TakeMeetsInsertion w := by
  intro wait insertion
  refine (WaitingMachine.handover_take nothing room insertion).meetAs ?_
  have free : w.contents.length < w.capacity := by rwa [nothing]
  have held : (w.append insertion.element).contents = [insertion.element] := by
    rw [WaitingQueue.append, nothing]
    rfl
  rw [perform_takeWhile (perform_insertion free insertion), take_of_held held, ← nothing]
  rfl

def SlotMachine.PutMeetsRemoval (x : E) : Prop :=
  ∀ (e : E) (wait : Option Timeout) (removal : Removal), Ends step? (OnceEach (.toPut wait) e)
    (fun m => BothReturned e x m ∧
      (QueueStep.putWhile e wait (.call removal.call)).perform (.slot (.holding (some x))) =
        (.both (.result (.inserted (.ok ()))) (.result (removal.tellsSlot (some x))),
          .slot m.queue))
    (start (.holding (some x)) 0)

theorem slot_put_meets_removal (x : E) : SlotMachine.PutMeetsRemoval x := by
  intro e wait removal
  have insists : SlotMachine.Insist.toPut wait ≠ .once := by
    match wait with
    | none | some .beyondClock | some (.millis t) => nofun
  refine (SlotMachine.ends_handover insists).imp ?_
  intro m returned
  refine ⟨returned, ?_⟩
  rw [returned.queue]
  match wait, removal with
  | none, .poll | none, .remove | none, .clear => rfl
  | some .beyondClock, .poll | some .beyondClock, .remove | some .beyondClock, .clear => rfl
  | some (.millis t), .poll | some (.millis t), .remove | some (.millis t), .clear => rfl

end Performing

/-- Calls that may wait agree with those that do not. After any steps on a new queue, a put and a
taking with a deadline are an offer and a poll, and so are those without one where there is room or
an element. In the machines a call that is alone comes to the same, whatever its loop goes through.
A put at a full queue and a removal, and a taking at an empty queue and an insertion, end as if the
other call had been first, in whatever order their events come. -/
theorem waiting_calls_agree_with_plain_calls [DecidableEq E] [Ordered E] :
    (∀ (n : Nat) (steps : List (QueueStep E)),
      PutsLikeOffers n (QueueStep.after (QueueType.waiting n).fresh steps) ∧
        TakesLikePolls (QueueStep.after (QueueType.waiting n).fresh steps)) ∧
      (∀ steps : List (QueueStep E),
        PutsLikeOffers 1 (QueueStep.after QueueType.slot.fresh steps)) ∧
      (∀ (m : WaitingMachine E) (i : Nat) (ask : WaitingMachine.Ask E), m.holder = none →
        m.parties[i]? = some (.locking ask) →
        Ends WaitingMachine.step? (WaitingMachine.Alone i)
          (WaitingMachine.CameTo i ask m.queue m.returned) m) ∧
      (∀ (m : SlotMachine E) (insist : SlotMachine.Insist) (e : E),
        m.producer = .trying insist e →
        Ends SlotMachine.step? SlotMachine.Alone
          (SlotMachine.CameTo insist e m.queue m.inserts) m) ∧
      (∀ w : WaitingQueue E, 0 < w.capacity →
        (w.contents.length = w.capacity → WaitingMachine.PutMeetsRemoval w) ∧
          (w.contents = [] → WaitingMachine.TakeMeetsInsertion w)) ∧
      ∀ x : E, SlotMachine.PutMeetsRemoval x := by
  refine ⟨?_, ?_, ?_, ?_, ?_, slot_put_meets_removal⟩
  · intro n steps
    obtain ⟨w, eq, rfl⟩ := WaitingQueue.exists_after n steps
    rw [eq]
    exact ⟨w.putsLikeOffers, w.takesLikePolls⟩
  · intro steps
    obtain ⟨o, eq⟩ := SlotQueue.exists_after steps
    rw [eq]
    exact SlotQueue.putsLikeOffers o
  · exact fun m i ask free here => WaitingMachine.ends_alone ⟨here, free, rfl, rfl⟩
  · exact fun m insist e trying => SlotMachine.ends_alone ⟨trying, rfl, rfl⟩
  · intro w room
    exact ⟨fun full => put_meets_removal full room,
      fun nothing => take_meets_insertion nothing room⟩

end QueueSupply
