import QueueSupply.Concurrent.InboxMachine

set_option autoImplicit false

namespace QueueSupply

variable {E : Type}

namespace InboxMachine

inductive Begins : Ask → Consumer E → Prop
  | poll : Begins .poll (.locking .poll)
  | peek : Begins .peek (.locking .peek)
  | clear : Begins .clear (.locking .clear)
  | next : Begins .next .asking

def nothingFound (clears : Bool) : Returned E := if clears then .cleared else .taken none

def afterDiscount (clears : Bool) (got : Marked E) : Consumer E :=
  if clears then .removing true else .unlocking (.taken (some got))

inductive Move (m : InboxMachine E) : Event → InboxMachine E → Prop
  | announce {i : Nat} {e : E} {pending : List E}
      (here : m.producers[i]? = some ⟨e :: pending, none⟩) :
      Move m (.offer i) { m with
        queue := m.queue.announce
        producers := m.producers.set i ⟨pending, some e⟩ }
  | send {i : Nat} {e : E} {pending : List E}
      (here : m.producers[i]? = some ⟨pending, some e⟩) :
      Move m (.offer i) { m with
        queue := m.queue.send (i, e)
        producers := m.producers.set i ⟨pending, none⟩
        sent := m.sent ++ [(i, e)] }
  | begin {i : Nat} {ask : Ask} {c : Consumer E} (here : m.consumers[i]? = some .idle)
      (begins : Begins ask c) : Move m (.call i ask) (m.setConsumer i c)
  | measure {i : Nat} (here : m.consumers[i]? = some .idle) :
      Move m (.call i .len) (m.finish i (.len m.queue.count))
  | pass {i : Nat} (here : m.consumers[i]? = some .asking) (empty : m.queue.count = 0) :
      Move m (.consumer i) (m.finish i (.taken none))
  | proceed {i : Nat} (here : m.consumers[i]? = some .asking) (some_counted : m.queue.count ≠ 0) :
      Move m (.consumer i) (m.setConsumer i (.locking .poll))
  | lock {i : Nat} {call : Locked} (here : m.consumers[i]? = some (.locking call))
      (free : m.holder = none) :
      Move m (.consumer i) { m.setConsumer i call.first with holder := some i }
  | exhaust {i : Nat} {clears : Bool} (here : m.consumers[i]? = some (.removing clears))
      (nothing : m.held = []) :
      Move m (.consumer i) (m.setConsumer i (.unlocking (nothingFound clears)))
  | remove {i : Nat} {clears : Bool} {e : Marked E}
      (here : m.consumers[i]? = some (.removing clears)) (head : m.held.head? = some e) :
      Move m (.consumer i) { m.setConsumer i (.discounting clears e) with
        queue := m.queue.takeHead.2
        gone := m.gone ++ [(e, clears)] }
  | discount {i : Nat} {clears : Bool} {got : Marked E}
      (here : m.consumers[i]? = some (.discounting clears got)) :
      Move m (.consumer i)
        { m.setConsumer i (afterDiscount clears got) with queue := m.queue.discount }
  | look {i : Nat} (here : m.consumers[i]? = some .showing) :
      Move m (.consumer i)
        { m.setConsumer i (.unlocking (.shown m.held.head?)) with queue := m.queue.fillCell }
  | unlock {i : Nat} {r : Returned E} (here : m.consumers[i]? = some (.unlocking r)) :
      Move m (.consumer i) { m.finish i r with holder := none }

theorem move_of_stepProducer? {m m' : InboxMachine E} {i : Nat} (h : m.stepProducer? i = some m') :
    Move m (.offer i) m' := by
  rw [stepProducer?] at h
  cases here : m.producers[i]? with
  | none =>
    rw [here] at h
    cases h
  | some p =>
    obtain ⟨pending, sending⟩ := p
    rw [here] at h
    cases sending with
    | some e =>
      obtain rfl := Option.some.inj h
      exact .send here
    | none =>
      cases pending with
      | nil => cases h
      | cons e pending =>
        obtain rfl := Option.some.inj h
        exact .announce here

theorem move_of_begin? {m m' : InboxMachine E} {i : Nat} {ask : Ask}
    (h : m.begin? i ask = some m') : Move m (.call i ask) m' := by
  unfold begin? at h
  cases here : m.consumers[i]? with
  | none =>
    rw [here] at h
    cases h
  | some c =>
    rw [here] at h
    cases c with
    | idle =>
      cases ask with
      | poll =>
        obtain rfl := Option.some.inj h
        exact .begin here .poll
      | peek =>
        obtain rfl := Option.some.inj h
        exact .begin here .peek
      | clear =>
        obtain rfl := Option.some.inj h
        exact .begin here .clear
      | len =>
        obtain rfl := Option.some.inj h
        exact .measure here
      | next =>
        obtain rfl := Option.some.inj h
        exact .begin here .next
    | asking | locking | removing | discounting | showing | unlocking => cases h

theorem move_of_removing {m m' : InboxMachine E} {i : Nat} {clears : Bool}
    (here : m.consumers[i]? = some (.removing clears)) (h : m.stepConsumer? i = some m') :
    Move m (.consumer i) m' := by
  rw [stepConsumer?, here] at h
  cases held : m.held with
  | nil =>
    have nothing := InboxQueue.takeHead_of_nil held
    simp only [nothing] at h
    obtain rfl := Option.some.inj h
    exact .exhaust here held
  | cons e rest =>
    have head : m.held.head? = some e := by rw [held]; rfl
    rcases found : m.queue.takeHead with ⟨got, q⟩
    obtain rfl : got = some e := by
      have first := m.queue.takeHead_fst
      rw [found] at first
      exact first.trans head
    simp only [found] at h
    obtain rfl := Option.some.inj h
    have after : q = m.queue.takeHead.2 := by rw [found]
    rw [after]
    exact .remove here head

theorem move_of_stepConsumer? {m m' : InboxMachine E} {i : Nat}
    (h : m.stepConsumer? i = some m') : Move m (.consumer i) m' := by
  cases here : m.consumers[i]? with
  | none =>
    rw [stepConsumer?, here] at h
    cases h
  | some c =>
    cases c with
    | idle =>
      rw [stepConsumer?, here] at h
      cases h
    | asking =>
      simp only [stepConsumer?, here] at h
      by_cases empty : m.queue.count = 0
      · rw [if_pos (m.queue.isEmpty_iff.mpr empty)] at h
        obtain rfl := Option.some.inj h
        exact .pass here empty
      · rw [if_neg (mt m.queue.isEmpty_iff.mp empty)] at h
        obtain rfl := Option.some.inj h
        exact .proceed here empty
    | locking call =>
      rw [stepConsumer?, here] at h
      cases free : m.holder with
      | some j =>
        simp only [free] at h
        cases h
      | none =>
        simp only [free] at h
        obtain rfl := Option.some.inj h
        exact .lock here free
    | removing clears => exact move_of_removing here h
    | discounting clears got =>
      rw [stepConsumer?, here] at h
      obtain rfl := Option.some.inj h
      exact .discount here
    | showing =>
      rw [stepConsumer?, here] at h
      obtain rfl := Option.some.inj h
      rw [InboxQueue.cell_fillCell]
      exact .look here
    | unlocking r =>
      rw [stepConsumer?, here] at h
      obtain rfl := Option.some.inj h
      exact .unlock here

theorem move_of_step? {m m' : InboxMachine E} {v : Event} (h : m.step? v = some m') :
    Move m v m' := by
  cases v with
  | offer i => exact move_of_stepProducer? h
  | call i ask => exact move_of_begin? h
  | consumer i => exact move_of_stepConsumer? h

end InboxMachine

end QueueSupply
