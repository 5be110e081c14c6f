import QueueSupply.Proofs.Fifo.Types
import QueueSupply.Session.QueueStep

set_option autoImplicit false

/-!
What the steps of a session make of a queue. Whatever a step is made up of, waiting calls and second
parties included, it leaves the queue as some calls in a row would leave it. So what holds along
every run of calls on a new queue of one of the types holds along every sequence of steps.
-/

namespace QueueSupply

variable {E : Type}

namespace Buffer

variable {Q : Type} [Buffer Q E] {q q' q'' : Q}

def Leads (q q' : Q) : Prop := ∃ calls : List (Call E), q' = (run q calls).2

theorem Leads.refl (q : Q) : Leads q q := ⟨[], rfl⟩

theorem Leads.trans (first : Leads q q') (second : Leads q' q'') : Leads q q'' := by
  obtain ⟨calls, rfl⟩ := first
  obtain ⟨later, rfl⟩ := second
  exact ⟨calls ++ later, (run_append q calls later).symm⟩

theorem Leads.call (q : Q) (c : Call E) : Leads q (Buffer.call q c).2 := ⟨[c], rfl⟩

theorem Leads.of_offer {e : E} {r : Inserted E} (offered : Buffer.offer q e = (r, q')) :
    Leads q q' := by
  refine ⟨[.offer e], ?_⟩
  change q' = (Buffer.offer q e).2
  rw [offered]

theorem Leads.of_poll {r : Option E} (polled : Buffer.poll q = (r, q')) : Leads q q' := by
  refine ⟨[.poll], ?_⟩
  change q' = (Buffer.poll q).2
  rw [polled]

theorem Leads.foldl {S α : Type} {f : S → α → S} (queue : S → Q)
    (step : ∀ s a, Leads (queue s) (queue (f s a))) (as : List α) :
    ∀ s, Leads (queue s) (queue (as.foldl f s)) := by
  induction as with
  | nil => exact fun s => .refl _
  | cons a as ih => exact fun s => (step s a).trans (ih _)

theorem leads_pollUpTo (limit : Nat) : ∀ q : Q, Leads q (pollUpTo Buffer.poll limit q).2 := by
  induction limit with
  | zero => exact .refl
  | succ limit ih =>
    intro q
    rw [pollUpTo]
    split
    · next q' polled => exact .of_poll polled
    · next e q' polled => exact (Leads.of_poll polled).trans (ih q')

theorem Transfer.leads_step (t : Transfer Q E) (turn : Transfer.Turn) :
    Leads t.queue (t.step turn).queue := by
  cases turn with
  | producer =>
    rw [Transfer.step]
    split
    · exact .refl _
    · split
      · next q offered => exact .of_offer offered
      · next err q offered => exact .of_offer offered
  | consumer =>
    rw [Transfer.step]
    split
    · next e q polled => exact .of_poll polled
    · next q polled => exact .of_poll polled

theorem Offers.leads_step (o : Offers Q E) (i : Nat) : Leads o.queue (o.step i).queue := by
  rw [Offers.step]
  split
  · exact .refl _
  · split
    · exact .refl _
    · split
      · next q offered => exact .of_offer offered
      · next err q offered => exact .of_offer offered

end Buffer

namespace AnyQueue

open Buffer

theorem leads_fill (es : List E) : ∀ q : AnyQueue E, Leads q (q.fill es).2 := by
  induction es with
  | nil => exact .refl
  | cons e es ih =>
    intro q
    rw [fill]
    split
    · next q' offered => exact (Leads.of_offer offered).trans (ih q')
    · next err q' offered => exact (Leads.of_offer offered).trans (ih q')

theorem leads_settle {α β : Type} {q : AnyQueue E} {reply : α → Result E} {outcome : Option β}
    {f : β → α × AnyQueue E} (leads : ∀ b, outcome = some b → Leads q (f b).2) :
    Leads q (settle q reply (outcome.map f)).2 := by
  cases outcome with
  | none => exact .refl q
  | some b => exact leads b rfl

theorem leads_slot_put? {s s' : SlotQueue E} {e : E} (h : s.put? e = some s') :
    Leads (AnyQueue.slot s) (.slot s') := by
  rw [SlotQueue.put?] at h
  split at h
  · next q offered =>
    obtain rfl := Option.some.inj h
    exact .of_offer (r := .ok ()) (e := e) (congrArg (Prod.map id slot) offered)
  · cases h

theorem leads_slot_putWithin? {s s' : SlotQueue E} {e : E} {wait : Timeout} {r : Inserted E}
    (h : s.putWithin? e wait = some (r, s')) : Leads (AnyQueue.slot s) (.slot s') := by
  cases wait with
  | beyondClock =>
    obtain ⟨_, put, same⟩ := Option.map_eq_some_iff.mp h
    obtain ⟨rfl, rfl⟩ := Prod.mk.inj same
    exact leads_slot_put? put
  | millis n =>
    rw [SlotQueue.putWithin?] at h
    split at h
    · next q offered =>
      obtain ⟨rfl, rfl⟩ := Prod.mk.inj (Option.some.inj h)
      exact .of_offer (r := .ok ()) (e := e) (congrArg (Prod.map id slot) offered)
    · next err q offered =>
      obtain ⟨rfl, rfl⟩ := Prod.mk.inj (Option.some.inj h)
      exact .of_offer (e := e) (congrArg (Prod.map id slot) offered)

theorem leads_append {w : WaitingQueue E} (room : w.isFull = false) (e : E) :
    Leads (AnyQueue.waiting w) (.waiting (w.append e)) := by
  have offered : w.offer e = (.ok (), w.append e) := by
    rw [WaitingQueue.offer, room]
    rfl
  exact .of_offer (e := e) (congrArg (Prod.map id waiting) offered)

theorem leads_waiting_put? {w w' : WaitingQueue E} {e : E} (h : w.put? e = some w') :
    Leads (AnyQueue.waiting w) (.waiting w') := by
  rw [WaitingQueue.put?] at h
  cases full : w.isFull with
  | true => simp [full] at h
  | false =>
    simp only [full, Bool.false_eq_true, if_false] at h
    exact Option.some.inj h ▸ leads_append full e

theorem leads_waiting_putWithin? {w w' : WaitingQueue E} {e : E} {wait : Timeout}
    {r : Inserted E} (h : w.putWithin? e wait = some (r, w')) :
    Leads (AnyQueue.waiting w) (.waiting w') := by
  cases wait with
  | beyondClock =>
    obtain ⟨_, put, same⟩ := Option.map_eq_some_iff.mp h
    obtain ⟨rfl, rfl⟩ := Prod.mk.inj same
    exact leads_waiting_put? put
  | millis n =>
    rw [WaitingQueue.putWithin?] at h
    cases full : w.isFull with
    | true =>
      simp only [full, if_true] at h
      obtain ⟨rfl, rfl⟩ := Prod.mk.inj (Option.some.inj h)
      exact .refl _
    | false =>
      simp only [full, Bool.false_eq_true, if_false] at h
      obtain ⟨rfl, rfl⟩ := Prod.mk.inj (Option.some.inj h)
      exact leads_append full e

theorem leads_take? {w w' : WaitingQueue E} {e : E} (h : w.take? = some (e, w')) :
    Leads (AnyQueue.waiting w) (.waiting w') := by
  rw [WaitingQueue.take?] at h
  split at h
  · cases h
  · next first rest held =>
    obtain ⟨rfl, rfl⟩ := Prod.mk.inj (Option.some.inj h)
    have polled : w.poll = (some first, { w with contents := rest }) := by
      rw [WaitingQueue.poll, held]
      rfl
    exact .of_poll (congrArg (Prod.map id waiting) polled)

theorem leads_takeWithin? {w w' : WaitingQueue E} {wait : Timeout} {r : Option E}
    (h : w.takeWithin? wait = some (r, w')) : Leads (AnyQueue.waiting w) (.waiting w') := by
  cases wait with
  | beyondClock =>
    obtain ⟨⟨e, _⟩, take, same⟩ := Option.map_eq_some_iff.mp h
    obtain ⟨rfl, rfl⟩ := Prod.mk.inj same
    exact leads_take? take
  | millis n =>
    rw [WaitingQueue.takeWithin?] at h
    split at h
    · obtain ⟨rfl, rfl⟩ := Prod.mk.inj (Option.some.inj h)
      exact .refl _
    · next first rest held =>
      obtain ⟨rfl, rfl⟩ := Prod.mk.inj (Option.some.inj h)
      apply leads_take? (e := first)
      rw [WaitingQueue.take?, held]

/-- A put that comes to an end has offered its element, or done nothing. -/
theorem leads_put (q : AnyQueue E) (e : E) (wait : Option Timeout) : Leads q (q.put e wait).2 := by
  cases q with
  | slot s =>
    cases wait with
    | none => exact leads_settle fun s' put => leads_slot_put? put
    | some t => exact leads_settle fun b put => leads_slot_putWithin? put
  | waiting w =>
    cases wait with
    | none => exact leads_settle fun w' put => leads_waiting_put? put
    | some t => exact leads_settle fun b put => leads_waiting_putWithin? put
  | null | ring | chain | inbox | plain | stack | scripted => exact .refl _

theorem leads_take (q : AnyQueue E) (wait : Option Timeout) : Leads q (q.take wait).2 := by
  cases q with
  | waiting w =>
    cases wait with
    | none => exact leads_settle fun b taken => leads_take? taken
    | some t => exact leads_settle fun b taken => leads_takeWithin? taken
  | null | slot | ring | chain | inbox | plain | stack | scripted => exact .refl _

theorem leads_contains [DecidableEq E] (q : AnyQueue E) (e : E) : Leads q (q.contains e).2 := by
  cases q with
  | slot s => exact .call (AnyQueue.slot s) .peek
  | null | ring | waiting | chain | inbox | plain | stack | scripted => exact .refl _

end AnyQueue

namespace QueueStep

open Buffer

variable [DecidableEq E] [Ordered E]

theorem leads_perform (s : QueueStep E) : ∀ q : AnyQueue E, Leads q (s.perform q).2 := by
  induction s with
  | call c => exact fun q => .call q c
  | fill es => exact AnyQueue.leads_fill es
  | pollSome n => exact leads_pollUpTo n
  | info => exact .refl
  | drainSorted => exact fun q => .call q .drain
  | iterate calls => exact fun q => ⟨calls, rfl⟩
  | contains e => exact fun q => q.leads_contains e
  | describe | countElements | bound | links => exact .refl
  | put e wait => exact fun q => q.leads_put e wait
  | take wait => exact fun q => q.leads_take wait
  | putWhile e wait other ih => exact fun q => (ih q).trans (AnyQueue.leads_put _ e wait)
  | takeWhile wait other ih => exact fun q => (ih q).trans (AnyQueue.leads_take _ wait)
  | transfer es =>
    intro q
    obtain ⟨turns, same⟩ := Transfer.rounds_eq_run (Buffer.len q + es.length)
      (Buffer.len q + es.length + q.refusals) (Transfer.start q es)
    have leads := Leads.foldl Transfer.queue Transfer.leads_step turns (Transfer.start q es)
    change Leads q (Transfer.rounds _ _ _).queue
    rw [same]
    exact leads
  | offerFromMany lists =>
    intro q
    exact Leads.foldl Offers.queue Offers.leads_step (Offers.oneByOne lists) (Offers.start q lists)

def after (q : AnyQueue E) (steps : List (QueueStep E)) : AnyQueue E :=
  steps.foldl (fun q s => (s.perform q).2) q

theorem leads_after (q : AnyQueue E) (steps : List (QueueStep E)) : Leads q (after q steps) :=
  Leads.foldl id (fun q s => leads_perform s q) steps q

end QueueStep

end QueueSupply
