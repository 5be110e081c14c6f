import QueueSupply.Proofs.Inbox.Moves
import QueueSupply.Proofs.Parties

set_option autoImplicit false

namespace QueueSupply.InboxMachine

variable {E : Type} {m m' : InboxMachine E} {v : Event}

/-- The counter is ahead of the contents by the offers that are counted and not yet sent and by the
removals that are not yet taken off it. -/
def Balanced (m : InboxMachine E) : Prop :=
  m.queue.count = m.held.length + m.announced + m.uncounted

theorem balanced_start (lists : List (List E)) (consumers : Nat) :
    Balanced (start lists consumers) := by
  have nobody_sends : (start lists consumers).announced = 0 := by
    apply List.countP_eq_zero.mpr
    intro p mem
    obtain ⟨es, _, rfl⟩ := List.mem_map.mp mem
    simp
  have nobody_removes : (start lists consumers).uncounted = 0 := by
    apply List.countP_eq_zero.mpr
    intro c mem
    rw [List.eq_of_mem_replicate mem]
    simp [Consumer.isDiscounting]
  rw [Balanced, nobody_sends, nobody_removes]
  rfl

theorem Balanced.producer {i : Nat} {old new : Producer E} {q : InboxQueue (Marked E)}
    {sent : List (Marked E)} (h : Balanced m) (here : m.producers[i]? = some old)
    (balance : q.count + m.held.length + old.sending.isSome.toNat =
      m.queue.count + (Buffer.toList q).length + new.sending.isSome.toNat) :
    Balanced { m with queue := q, producers := m.producers.set i new, sent := sent } := by
  have announced := Parties.countP_set here (fun p => p.sending.isSome) new
  simp only [Balanced, InboxMachine.announced, held, uncounted] at h balance announced ⊢
  omega

theorem Balanced.consumer {i : Nat} {old new : Consumer E} {q : InboxQueue (Marked E)}
    {holder : Option Nat} {gone : List (Marked E × Bool)} {returned : List (Nat × Returned E)}
    (h : Balanced m) (here : m.consumers[i]? = some old)
    (balance : q.count + m.held.length + old.isDiscounting.toNat =
      m.queue.count + (Buffer.toList q).length + new.isDiscounting.toNat) :
    Balanced { m with
      queue := q, holder := holder, consumers := m.consumers.set i new, gone := gone
      returned := returned } := by
  have uncounted := Parties.countP_set here Consumer.isDiscounting new
  simp only [Balanced, InboxMachine.uncounted, held, announced] at h balance uncounted ⊢
  omega

theorem count_pos {i : Nat} {clears : Bool} {got : Marked E} (h : Balanced m)
    (here : m.consumers[i]? = some (.discounting clears got)) : 0 < m.queue.count := by
  have uncounted : 0 < m.uncounted :=
    List.countP_pos_iff.mpr ⟨_, List.mem_of_getElem? here, rfl⟩
  rw [h]
  omega

theorem length_held_of_head? {e : Marked E} (head : m.held.head? = some e) :
    m.held.length = (Buffer.toList m.queue.takeHead.2).length + 1 := by
  rw [InboxQueue.toList_takeHead]
  change m.held.length = m.held.tail.length + 1
  cases held : m.held with
  | nil =>
    rw [held] at head
    cases head
  | cons e rest => rfl

theorem Balanced.move (h : Balanced m) (move : Move m v m') : Balanced m' := by
  cases move with
  | announce here =>
    apply h.producer here
    change m.queue.count + 1 + m.held.length + 0 = m.queue.count + m.held.length + 1
    omega
  | @send i e pending here =>
    apply h.producer here
    rw [InboxQueue.toList_send, List.length_append]
    rfl
  | begin here begins =>
    apply h.consumer here
    cases begins <;> rfl
  | measure here => exact h.consumer here rfl
  | pass here empty => exact h.consumer here rfl
  | proceed here counted => exact h.consumer here rfl
  | @lock i call here free =>
    apply h.consumer here
    cases call <;> rfl
  | exhaust here nothing => exact h.consumer here rfl
  | @remove i clears e here head =>
    apply h.consumer here
    have shorter := length_held_of_head? head
    rw [InboxQueue.count_takeHead]
    change m.queue.count + m.held.length + 0 = m.queue.count + _ + 1
    omega
  | @discount i clears got here =>
    have pos := count_pos h here
    apply h.consumer here
    have after : (afterDiscount clears got).isDiscounting = false := by cases clears <;> rfl
    rw [after]
    change m.queue.count - 1 + m.held.length + 1 = m.queue.count + m.held.length + 0
    omega
  | look here =>
    apply h.consumer here
    rw [InboxQueue.count_fillCell, InboxQueue.toList_fillCell]
    rfl
  | unlock here => exact h.consumer here rfl

theorem held_eq_cons {e : Marked E} (head : m.held.head? = some e) :
    m.held = e :: Buffer.toList m.queue.takeHead.2 := by
  rw [InboxQueue.toList_takeHead]
  exact (List.cons_head?_tail head).symm

def Conserved (m : InboxMachine E) : Prop := m.sent = m.gone.map Prod.fst ++ m.held

theorem Conserved.move (h : Conserved m) (move : Move m v m') : Conserved m' := by
  cases move with
  | @send i e pending here =>
    change m.sent ++ [(i, e)] = m.gone.map Prod.fst ++ Buffer.toList (m.queue.send (i, e))
    rw [InboxQueue.toList_send, ← List.append_assoc, h]
    rfl
  | @remove i clears e here head =>
    change m.sent = (m.gone ++ [(e, clears)]).map Prod.fst ++ Buffer.toList m.queue.takeHead.2
    rw [h, held_eq_cons head, List.map_append, List.append_assoc]
    rfl
  | look here =>
    change m.sent = m.gone.map Prod.fst ++ Buffer.toList m.queue.fillCell
    rw [InboxQueue.toList_fillCell]
    exact h
  | announce | begin | measure | pass | proceed | lock | exhaust | discount | unlock => exact h

def Returned.taken? : Returned E → Option (Marked E)
  | .taken e => e
  | _ => none

def Consumer.inHand? : Consumer E → Option (Marked E)
  | .discounting false got => some got
  | .unlocking r => r.taken?
  | _ => none

/-- What the calls have taken out for their callers, those under way included. -/
def taken (m : InboxMachine E) : List (Marked E) :=
  Parties.gathered Returned.taken? Consumer.inHand? m.returned m.consumers

theorem taken?_nothingFound (clears : Bool) :
    (nothingFound clears : Returned E).taken? = none := by
  cases clears <;> rfl

theorem inHand?_afterDiscount (clears : Bool) (got : Marked E) :
    (afterDiscount clears got).inHand? = (Consumer.discounting clears got).inHand? := by
  cases clears <;> rfl

def Accounted (m : InboxMachine E) : Prop := (Parties.obtained m.gone).Perm m.taken

theorem Accounted.move (h : Accounted m) (move : Move m v m') : Accounted m' := by
  cases move with
  | announce | send => exact h
  | begin here begins =>
    apply h.trans
    apply Parties.gathered_goOn here
    cases begins <;> rfl
  | measure here => exact h.trans (Parties.gathered_return here rfl rfl)
  | pass here empty => exact h.trans (Parties.gathered_return here rfl rfl)
  | proceed here counted => exact h.trans (Parties.gathered_goOn here rfl)
  | @lock i call here free =>
    apply h.trans
    apply Parties.gathered_goOn here
    cases call <;> rfl
  | exhaust here nothing =>
    exact h.trans (Parties.gathered_goOn here (taken?_nothingFound _))
  | @remove i clears e here head =>
    change (Parties.obtained (m.gone ++ [(e, clears)])).Perm _
    rw [Parties.obtained_append]
    cases clears with
    | false =>
      have gained := Parties.gathered_gain Returned.taken? Consumer.inHand? m.returned
        (.discounting false e) here rfl
      exact (h.append_right [e]).trans gained
    | true =>
      have none_obtained : Parties.obtained [(e, true)] = [] := rfl
      rw [none_obtained, List.append_nil]
      exact h.trans (Parties.gathered_goOn here rfl)
  | discount here => exact h.trans (Parties.gathered_goOn here (inHand?_afterDiscount _ _))
  | look here => exact h.trans (Parties.gathered_goOn here rfl)
  | unlock here => exact h.trans (Parties.gathered_return here rfl rfl)

def offeredBy (i : Nat) (es : List (Marked E)) : List E :=
  es.filterMap fun e => if e.1 = i then some e.2 else none

def Producer.unsent (p : Producer E) : List E := p.sending.toList ++ p.pending

def unsent (m : InboxMachine E) (i : Nat) : List E :=
  (m.producers[i]?.map Producer.unsent).getD []

theorem offeredBy_append (i : Nat) (xs ys : List (Marked E)) :
    offeredBy i (xs ++ ys) = offeredBy i xs ++ offeredBy i ys :=
  List.filterMap_append

theorem unsent_set {i : Nat} {old new : Producer E} (here : m.producers[i]? = some old) (j : Nat) :
    ((m.producers.set i new)[j]?.map Producer.unsent).getD [] =
      if j = i then new.unsent else m.unsent j := by
  obtain ⟨lt, _⟩ := List.getElem?_eq_some_iff.mp here
  by_cases same : j = i
  · subst same
    simp [lt]
  · rw [List.getElem?_set_ne (Ne.symm same), if_neg same]
    rfl

def InOrder (lists : List (List E)) (m : InboxMachine E) : Prop :=
  ∀ i, offeredBy i m.sent ++ m.unsent i = lists[i]?.getD []

theorem inOrder_start (lists : List (List E)) (consumers : Nat) :
    InOrder lists (start lists consumers) := by
  intro i
  change ((lists.map fun es => (⟨es, none⟩ : Producer E))[i]?.map Producer.unsent).getD [] = _
  rw [List.getElem?_map]
  cases lists[i]? <;> rfl

theorem InOrder.move {lists : List (List E)} (h : InOrder lists m) (move : Move m v m') :
    InOrder lists m' := by
  cases move with
  | @announce i e pending here =>
    intro j
    have list := h j
    change offeredBy j m.sent ++ ((m.producers.set i _)[j]?.map Producer.unsent).getD [] = _
    rw [unsent_set here]
    by_cases same : j = i
    · subst same
      rw [unsent, here] at list
      rw [if_pos rfl]
      exact list
    · rw [if_neg same]
      exact list
  | @send i e pending here =>
    intro j
    have list := h j
    change offeredBy j (m.sent ++ [(i, e)]) ++
      ((m.producers.set i _)[j]?.map Producer.unsent).getD [] = _
    rw [unsent_set here, offeredBy_append]
    by_cases same : j = i
    · subst same
      have own : offeredBy j [(j, e)] = [e] := by simp [offeredBy]
      rw [unsent, here] at list
      rw [if_pos rfl, own, List.append_assoc]
      exact list
    · have foreign : offeredBy j [(i, e)] = [] := by simp [offeredBy, Ne.symm same]
      rw [if_neg same, foreign, List.append_nil]
      exact list
  | begin | measure | pass | proceed | lock | exhaust | remove | discount | look | unlock => exact h

structure Sound (lists : List (List E)) (m : InboxMachine E) : Prop where
  balanced : Balanced m
  conserved : Conserved m
  accounted : Accounted m
  inOrder : InOrder lists m

theorem sound_of_run {lists : List (List E)} {consumers : Nat} {events : List Event}
    (run : Schedule.run? step? (start lists consumers) events = some m) : Sound lists m := by
  have nothing_taken : (start lists consumers).taken = [] := by
    apply List.filterMap_eq_nil_iff.mpr
    intro c mem
    rw [List.eq_of_mem_replicate mem]
    rfl
  have initially : Sound lists (start lists consumers) := by
    refine ⟨balanced_start lists consumers, rfl, ?_, inOrder_start lists consumers⟩
    rw [Accounted, nothing_taken]
    exact List.Perm.nil
  refine Schedule.invariant_of_run? ?_ events initially run
  intro s v t sound step
  have move := move_of_step? step
  exact ⟨sound.balanced.move move, sound.conserved.move move, sound.accounted.move move,
    sound.inOrder.move move⟩

/-- The counter counts the channel, the cell, the offers that are counted and not yet sent and the
removals not yet taken off it. So nothing is ever taken off a counter at zero, no element can be
polled while the queue says that it is empty, and the length is right when nothing is under way. -/
structure Counted (m : InboxMachine E) : Prop where
  count_eq : m.queue.count =
    m.queue.channel.length + m.queue.cell.toList.length + m.announced + m.uncounted
  pos_of_discounting : ∀ (i : Nat) (clears : Bool) (got : Marked E),
    m.consumers[i]? = some (.discounting clears got) → 0 < m.queue.count
  poll_of_isEmpty : Buffer.isEmpty m.queue = true → (Buffer.poll m.queue).1 = none
  len_of_quiet : (∀ p ∈ m.producers, p.sending = none) → (∀ c ∈ m.consumers, c = .idle) →
    Buffer.len m.queue = m.held.length

theorem Balanced.counted (h : Balanced m) : Counted m where
  count_eq := by
    have both : m.held.length = m.queue.cell.toList.length + m.queue.channel.length :=
      List.length_append
    rw [Balanced] at h
    omega
  pos_of_discounting i clears got here := count_pos h here
  poll_of_isEmpty empty := by
    have zero := m.queue.isEmpty_iff.mp empty
    have nothing : m.held = [] := by
      apply List.eq_nil_of_length_eq_zero
      rw [Balanced] at h
      omega
    have found := InboxQueue.takeHead_of_nil nothing
    change m.queue.poll.1 = none
    rw [InboxQueue.poll, found]
  len_of_quiet no_sending all_idle := by
    have announced : m.announced = 0 := by
      apply List.countP_eq_zero.mpr
      intro p mem
      rw [no_sending p mem]
      simp
    have uncounted : m.uncounted = 0 := by
      apply List.countP_eq_zero.mpr
      intro c mem
      rw [all_idle c mem]
      simp [Consumer.isDiscounting]
    change m.queue.count = m.held.length
    rw [Balanced] at h
    omega

/-- What has been sent was taken out by calls for their callers, thrown away or is held, each
element once, and it leaves in the order in which it was sent. What has left of one producer, what
is held of it and what it has still to send make up its list. -/
structure Conserves (lists : List (List E)) (m : InboxMachine E) : Prop where
  sent_perm : m.sent.Perm (m.taken ++ Parties.thrown m.gone ++ m.held)
  sent_eq : m.sent = m.gone.map Prod.fst ++ m.held
  list_eq : ∀ i, offeredBy i (m.gone.map Prod.fst) ++ offeredBy i m.held ++ m.unsent i =
    lists[i]?.getD []

theorem Sound.conserves {lists : List (List E)} (h : Sound lists m) : Conserves lists m where
  sent_perm := by
    rw [h.conserved]
    exact ((Parties.gone_perm m.gone).trans (h.accounted.append_right _)).append_right _
  sent_eq := h.conserved
  list_eq i := by
    rw [← offeredBy_append, ← h.conserved]
    exact h.inOrder i

/-- Along every run from the empty inbox, with any producers and consumers, the counter is right and
no element is lost, doubled or overtaken by another of its producer. -/
theorem run_counted_and_conserved (lists : List (List E)) (consumers : Nat) (events : List Event)
    (m : InboxMachine E)
    (run : Schedule.run? step? (start lists consumers) events = some m) :
    Counted m ∧ Conserves lists m := by
  have sound := sound_of_run run
  exact ⟨sound.balanced.counted, sound.conserves⟩

/-- While an element is looked at, then polled and the rest thrown away, the producers go on. -/
def lookPollClear : List Event :=
  [.offer 0, .offer 1, .offer 1, .call 0 .peek] ++ List.replicate 3 (.consumer 0) ++
    .call 1 .next :: List.replicate 3 (.consumer 1) ++ List.replicate 3 (.offer 0) ++
      List.replicate 2 (.consumer 1) ++ .call 0 .clear :: List.replicate 7 (.consumer 0)

theorem run_counted_and_conserved_lookPollClear :
    ∃ m : InboxMachine Nat,
      Schedule.run? step? (start [[1, 2], [3]] 2) lookPollClear = some m ∧
        m.returned = [(0, .shown (some (1, 3))), (1, .taken (some (1, 3))), (0, .cleared)] ∧
          m.gone = [((1, 3), false), ((0, 1), true), ((0, 2), true)] ∧
            Counted m ∧ Conserves [[1, 2], [3]] m :=
  ⟨_, rfl, rfl, rfl, run_counted_and_conserved [[1, 2], [3]] 2 lookPollClear _ rfl⟩

end QueueSupply.InboxMachine
