import QueueSupply.Concurrent.SlotMachine

set_option autoImplicit false

namespace QueueSupply

variable {E : Type}

theorem SlotQueue.exchange?_some {q q' : SlotQueue E} {old new : Nat}
    (h : q.exchange? old new = some q') : q.word = old ∧ q' = { q with word := new } := by
  rw [SlotQueue.exchange?] at h
  by_cases eq : q.word = old
  · rw [if_pos eq] at h
    exact ⟨eq, (Option.some.inj h).symm⟩
  · rw [if_neg eq] at h
    cases h

theorem SlotQueue.exchange?_none {q : SlotQueue E} {old new : Nat}
    (h : q.exchange? old new = none) : q.word ≠ old := by
  intro eq
  rw [SlotQueue.exchange?, if_pos eq] at h
  cases h

namespace SlotMachine

/-- How an insertion may end. One that is refused hands the element back, and one that insists
without a deadline is never refused. -/
inductive Settled : Insist × E → Inserted E → Prop
  | ok {insist : Insist} {e : E} : Settled (insist, e) (.ok ())
  | full {e : E} : Settled (.once, e) (.error (.full e))
  | timeout {e : E} : Settled (.untilDeadline, e) (.error (.timeout e))

/-- A consumer that has begun and has not claimed the slot. -/
inductive Consumer.Seeks : Consumer E → Option E → Prop
  | loading {due : Option E} : Seeks (.loading due) due
  | exchanging {due : Option E} : Seeks (.exchanging due) due

theorem Consumer.Seeks.unique {c : Consumer E} {due due' : Option E} (h : c.Seeks due)
    (h' : c.Seeks due') : due = due' := by
  cases h with
  | loading =>
    cases h'
    rfl
  | exchanging =>
    cases h'
    rfl

/-- A reader that has begun and has not entered. -/
inductive Reader.Seeks : Reader E → Prop
  | loading : Seeks .loading
  | entering {seen : Nat} : Seeks (.entering seen)

inductive Move (m : SlotMachine E) : Event E → SlotMachine E → Prop
  | insert {insist : Insist} {e : E} (idle : m.producer = .idle) :
      Move m (.insert insist e) { m with producer := .trying insist e }
  | retry {x : Bool} {insist : Insist} {e : E} (trying : m.producer = .trying insist e)
      (busy : m.queue.word ≠ SlotQueue.emptyWord) : Move m (.producer x) m
  | refuse {x : Bool} {insist : Insist} {e : E} {err : QueueError E}
      (trying : m.producer = .trying insist e) (busy : m.queue.word ≠ SlotQueue.emptyWord)
      (settled : Settled (insist, e) (.error err)) : Move m (.producer x) (m.refuse err)
  | claim {x : Bool} {insist : Insist} {e : E} (trying : m.producer = .trying insist e)
      (free : m.queue.word = SlotQueue.emptyWord) :
      Move m (.producer x)
        { m with queue := { m.queue with word := SlotQueue.writingWord }, producer := .writing e }
  | write {x : Bool} {e : E} (writing : m.producer = .writing e) :
      Move m (.producer x) { m with queue := m.queue.write e, producer := .publishing e }
  | publish {x : Bool} {e : E} (publishing : m.producer = .publishing e) :
      Move m (.producer x) { m with
        queue := m.queue.publish
        producer := .idle
        inserts := m.inserts ++ [.ok ()]
        accepted := m.accepted ++ [e] }
  | seek (idle : m.consumer = .idle) : Move m .take { m with consumer := .loading m.due }
  | goOn {s : Bool} {due : Option E} {next : Consumer E} (seeks : m.consumer.Seeks due)
      (still : next.Seeks due) : Move m (.consumer s) { m with consumer := next }
  | giveUp {s : Bool} {due : Option E} (seeks : m.consumer.Seeks due)
      (off : SlotQueue.phaseOf m.queue.word ≠ SlotQueue.fullWord) :
      Move m (.consumer s) { m with consumer := .idle, polls := m.polls ++ [(due, none)] }
  | lock {s : Bool} {due : Option E} (exchanging : m.consumer = .exchanging due)
      (full : m.queue.word = SlotQueue.fullWord) :
      Move m (.consumer s)
        { m with queue := { m.queue with word := SlotQueue.takingWord }, consumer := .moving due }
  | vacate {s : Bool} {due : Option E} (moving : m.consumer = .moving due) :
      Move m (.consumer s) { m with
        queue := m.queue.vacate
        consumer := .releasing due m.queue.slot
        taken := m.taken ++ m.queue.slot.toList }
  | release {s : Bool} {due got : Option E} (releasing : m.consumer = .releasing due got) :
      Move m (.consumer s) { m with
        queue := m.queue.release
        consumer := .idle
        polls := m.polls ++ [(due, got)] }
  | look {i : Nat} (idle : m.readers[i]? = some .idle) : Move m (.look i) (m.setReader i .loading)
  | aim {i : Nat} {s : Bool} {r : Reader E} (here : m.readers[i]? = some r) (seeks : r.Seeks)
      (full : SlotQueue.phaseOf m.queue.word = SlotQueue.fullWord) :
      Move m (.reader i s) (m.setReader i (.entering m.queue.word))
  | miss {i : Nat} {s : Bool} {r : Reader E} (here : m.readers[i]? = some r) (seeks : r.Seeks)
      (off : SlotQueue.phaseOf m.queue.word ≠ SlotQueue.fullWord) :
      Move m (.reader i s)
        { m.setReader i .idle with looks := m.looks ++ [(i, none, none)] }
  | enter {i : Nat} {s : Bool} (entering : m.readers[i]? = some (.entering m.queue.word)) :
      Move m (.reader i s) { m.setReader i (.reading m.due) with
        queue := { m.queue with word := m.queue.word + SlotQueue.readerUnit } }
  | read {i : Nat} {s : Bool} {due : Option E} (reading : m.readers[i]? = some (.reading due)) :
      Move m (.reader i s) (m.setReader i (.leaving due m.queue.slot))
  | leave {i : Nat} {s : Bool} {due got : Option E}
      (leaving : m.readers[i]? = some (.leaving due got)) :
      Move m (.reader i s) { m.setReader i .idle with
        queue := m.queue.leave
        looks := m.looks ++ [(i, due, got)] }
  | measure : Move m .measure m

namespace Move

variable {m m' : SlotMachine E} {v : Event E}

theorem slot_eq (move : Move m v m') (unwritten : ∀ e, m.producer ≠ .writing e)
    (unmoved : ∀ due, m.consumer ≠ .moving due) : m'.queue.slot = m.queue.slot := by
  cases move with
  | write writing => exact absurd writing (unwritten _)
  | vacate moving => exact absurd moving (unmoved _)
  | insert | retry | refuse | claim | publish | seek | goOn | giveUp | lock | release | look | aim
  | miss | enter | read | leave | measure => rfl

theorem readers_length (move : Move m v m') : m'.readers.length = m.readers.length := by
  cases move with
  | look | aim | miss | enter | read | leave => exact List.length_set
  | insert | retry | refuse | claim | write | publish | seek | goOn | giveUp | lock | vacate
  | release | measure => rfl

theorem polls_append (move : Move m v m') : ∃ later, m'.polls = m.polls ++ later := by
  cases move with
  | giveUp => exact ⟨_, rfl⟩
  | release => exact ⟨_, rfl⟩
  | insert | retry | refuse | claim | write | publish | seek | goOn | lock | vacate | look | aim
  | miss | enter | read | leave | measure => exact ⟨[], (List.append_nil _).symm⟩

/-- A look that found something is recorded when its reader leaves. -/
theorem looks_append (move : Move m v m') :
    ∃ later, m'.looks = m.looks ++ later ∧ later.length ≤ 1 ∧
      ∀ i due e, (i, due, some e) ∈ later →
        (∃ s, v = .reader i s) ∧ m.readers[i]? = some (.leaving due (some e)) := by
  cases move with
  | @miss i =>
    refine ⟨[(i, none, none)], rfl, Nat.le_refl 1, ?_⟩
    intro j due e mem
    cases List.mem_singleton.mp mem
  | @leave i s due got leaving =>
    refine ⟨[(i, due, got)], rfl, Nat.le_refl 1, ?_⟩
    intro j due' e mem
    cases List.mem_singleton.mp mem
    exact ⟨⟨s, rfl⟩, leaving⟩
  | insert | retry | refuse | claim | write | publish | seek | goOn | giveUp | lock | vacate
  | release | look | aim | enter | read | measure =>
    refine ⟨[], (List.append_nil _).symm, Nat.zero_le 1, ?_⟩
    intro i due e mem
    cases mem

end Move

theorem move_of_stepProducer? {m m' : SlotMachine E} {x : Bool}
    (h : m.stepProducer? x = some m') : Move m (.producer x) m' := by
  rw [stepProducer?] at h
  cases state : m.producer with
  | idle =>
    rw [state] at h
    cases h
  | trying insist e =>
    rw [state] at h
    cases begun : m.queue.beginWrite? with
    | some q =>
      obtain ⟨free, rfl⟩ := SlotQueue.exchange?_some begun
      simp only [begun, Option.some.injEq] at h
      subst h
      exact .claim state free
    | none =>
      have busy := SlotQueue.exchange?_none begun
      simp only [begun] at h
      cases insist with
      | once =>
        obtain rfl := Option.some.inj h
        exact .refuse state busy .full
      | always =>
        obtain rfl := Option.some.inj h
        exact .retry state busy
      | untilDeadline =>
        cases x with
        | true =>
          obtain rfl := Option.some.inj h
          exact .refuse state busy .timeout
        | false =>
          obtain rfl := Option.some.inj h
          exact .retry state busy
  | writing e =>
    rw [state] at h
    obtain rfl := Option.some.inj h
    exact .write state
  | publishing e =>
    rw [state] at h
    obtain rfl := Option.some.inj h
    exact .publish state

theorem move_of_sawConsumer {m : SlotMachine E} {s : Bool} {due : Option E}
    (seeks : m.consumer.Seeks due) : Move m (.consumer s) (m.sawConsumer due m.queue.word) := by
  rw [sawConsumer]
  by_cases off : SlotQueue.phaseOf m.queue.word ≠ SlotQueue.fullWord
  · rw [if_pos off]
    exact .giveUp seeks off
  · rw [if_neg off]
    by_cases shared : m.queue.word ≠ SlotQueue.fullWord
    · rw [if_pos shared]
      exact .goOn seeks .loading
    · rw [if_neg shared]
      exact .goOn seeks .exchanging

theorem move_of_stepConsumer? {m m' : SlotMachine E} {s : Bool}
    (h : m.stepConsumer? s = some m') : Move m (.consumer s) m' := by
  rw [stepConsumer?] at h
  cases state : m.consumer with
  | idle =>
    rw [state] at h
    cases h
  | loading due =>
    rw [state] at h
    obtain rfl := Option.some.inj h
    exact move_of_sawConsumer (state ▸ .loading)
  | exchanging due =>
    rw [state] at h
    have seeks : m.consumer.Seeks due := state ▸ .exchanging
    cases begun : m.queue.beginTake? with
    | none =>
      simp only [begun] at h
      obtain rfl := Option.some.inj h
      exact move_of_sawConsumer seeks
    | some q =>
      rw [begun] at h
      cases s with
      | true =>
        obtain rfl := Option.some.inj h
        exact move_of_sawConsumer seeks
      | false =>
        obtain ⟨full, rfl⟩ := SlotQueue.exchange?_some begun
        obtain rfl := Option.some.inj h
        exact .lock state full
  | moving due =>
    rw [state] at h
    obtain rfl := Option.some.inj h
    exact .vacate state
  | releasing due got =>
    rw [state] at h
    obtain rfl := Option.some.inj h
    exact .release state

theorem move_of_sawReader {m : SlotMachine E} {i : Nat} {s : Bool} {r : Reader E}
    (here : m.readers[i]? = some r) (seeks : r.Seeks) :
    Move m (.reader i s) (m.sawReader i m.queue.word) := by
  rw [sawReader]
  by_cases off : SlotQueue.phaseOf m.queue.word ≠ SlotQueue.fullWord
  · rw [if_pos off]
    exact .miss here seeks off
  · rw [if_neg off]
    exact .aim here seeks (Decidable.not_not.mp off)

theorem move_of_stepReader? {m m' : SlotMachine E} {i : Nat} {s : Bool}
    (h : m.stepReader? i s = some m') : Move m (.reader i s) m' := by
  rw [stepReader?] at h
  cases here : m.readers[i]? with
  | none =>
    rw [here] at h
    cases h
  | some r =>
    rw [here] at h
    cases r with
    | idle => cases h
    | loading =>
      obtain rfl := Option.some.inj h
      exact move_of_sawReader here .loading
    | entering seen =>
      cases entered : m.queue.enter? seen with
      | none =>
        simp only [entered] at h
        obtain rfl := Option.some.inj h
        exact move_of_sawReader here .entering
      | some q =>
        simp only [entered] at h
        cases s with
        | true =>
          obtain rfl := Option.some.inj h
          exact move_of_sawReader here .entering
        | false =>
          obtain ⟨rfl, rfl⟩ := SlotQueue.exchange?_some entered
          obtain rfl := Option.some.inj h
          exact .enter here
    | reading due =>
      obtain rfl := Option.some.inj h
      exact .read here
    | leaving due got =>
      obtain rfl := Option.some.inj h
      exact .leave here

theorem move_of_step? {m m' : SlotMachine E} {v : Event E} (h : m.step? v = some m') :
    Move m v m' := by
  cases v with
  | insert insist e =>
    rw [step?] at h
    cases state : m.producer with
    | idle =>
      rw [state] at h
      obtain rfl := Option.some.inj h
      exact .insert state
    | trying | writing | publishing =>
      rw [state] at h
      cases h
  | producer x => exact move_of_stepProducer? h
  | take =>
    rw [step?] at h
    cases state : m.consumer with
    | idle =>
      rw [state] at h
      obtain rfl := Option.some.inj h
      exact .seek state
    | loading | exchanging | moving | releasing =>
      rw [state] at h
      cases h
  | consumer s => exact move_of_stepConsumer? h
  | look i =>
    rw [step?] at h
    cases here : m.readers[i]? with
    | none =>
      rw [here] at h
      cases h
    | some r =>
      rw [here] at h
      cases r with
      | idle =>
        obtain rfl := Option.some.inj h
        exact .look here
      | loading | entering | reading | leaving => cases h
  | reader i s => exact move_of_stepReader? h
  | measure =>
    obtain rfl := Option.some.inj h
    exact .measure

end SlotMachine

end QueueSupply
