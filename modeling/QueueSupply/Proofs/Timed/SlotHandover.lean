import QueueSupply.Proofs.Timed.Slot

set_option autoImplicit false

namespace QueueSupply.SlotMachine

open Schedule (Changes Ends ne_of_view)

variable {E : Type} {m m' : SlotMachine E} {v : Event E}

structure Scene (p : Producer E) (c : Consumer E) (q : SlotQueue E) (inserts : List (Inserted E))
    (polls : List (Option E × Option E)) (m : SlotMachine E) : Prop where
  producer : m.producer = p
  consumer : m.consumer = c
  queue : m.queue = q
  inserts : m.inserts = inserts
  polls : m.polls = polls

def OnceEach (insist : Insist) (e : E) (m : SlotMachine E) : Event E → Prop
  | .insert i f => i = insist ∧ f = e ∧ m.inserts = []
  | .producer expired => insist = .untilDeadline → expired = false
  | .take => m.polls = []
  | .consumer _ => True
  | .measure => True
  | .look _ => False
  | .reader _ _ => False

inductive Waits (insist : Insist) (e : E) : Nat → Producer E → Prop
  | unbegun : Waits insist e 1 .idle
  | trying : Waits insist e 0 (.trying insist e)

inductive Takes (x : E) : Nat → Consumer E → SlotQueue E → Prop
  | unbegun : Takes x 5 .idle ⟨SlotQueue.fullWord, some x⟩
  | loading : Takes x 4 (.loading (some x)) ⟨SlotQueue.fullWord, some x⟩
  | exchanging : Takes x 3 (.exchanging (some x)) ⟨SlotQueue.fullWord, some x⟩
  | moving : Takes x 2 (.moving (some x)) ⟨SlotQueue.takingWord, some x⟩
  | releasing : Takes x 1 (.releasing (some x) (some x)) ⟨SlotQueue.takingWord, none⟩

inductive Puts (insist : Insist) (e : E) : Nat → Producer E → SlotQueue E → Prop
  | unbegun : Puts insist e 4 .idle .empty
  | trying : Puts insist e 3 (.trying insist e) .empty
  | writing : Puts insist e 2 (.writing e) ⟨SlotQueue.writingWord, none⟩
  | publishing : Puts insist e 1 (.publishing e) ⟨SlotQueue.writingWord, some e⟩

def BothReturned (e x : E) : SlotMachine E → Prop :=
  Scene .idle .idle ⟨SlotQueue.fullWord, some e⟩ [.ok ()] [(some x, some x)]

inductive Meeting (insist : Insist) (e x : E) : Nat → SlotMachine E → Prop
  | taking {m : SlotMachine E} {p : Producer E} {c : Consumer E} {q : SlotQueue E} {j k : Nat}
      (waits : Waits insist e j p) (takes : Takes x k c q) (scene : Scene p c q [] [] m)
      (due : c = .idle → m.due = some x) : Meeting insist e x (j + k + 4) m
  | putting {m : SlotMachine E} {p : Producer E} {q : SlotQueue E} {k : Nat}
      (puts : Puts insist e k p q) (scene : Scene p .idle q [] [(some x, some x)] m) :
      Meeting insist e x k m
  | met {m : SlotMachine E} (returned : BothReturned e x m) : Meeting insist e x 0 m

section Consuming

variable {s : Bool} {due got : Option E}

theorem step?_consumer_idle (idle : m.consumer = .idle) : m.step? (.consumer s) = none := by
  change m.stepConsumer? s = none
  rw [stepConsumer?, idle]

theorem step?_load (loading : m.consumer = .loading due)
    (full : m.queue.word = SlotQueue.fullWord) :
    m.step? (.consumer s) = some { m with consumer := .exchanging due } := by
  change m.stepConsumer? s = _
  rw [stepConsumer?, loading, full]
  rfl

theorem step?_spurious (exchanging : m.consumer = .exchanging due)
    (full : m.queue.word = SlotQueue.fullWord) : m.step? (.consumer true) = some m := by
  change m.stepConsumer? true = _
  rw [stepConsumer?, exchanging, full]
  change some { m with consumer := .exchanging due } = some m
  rw [← exchanging]

theorem step?_lock (exchanging : m.consumer = .exchanging due)
    (full : m.queue.word = SlotQueue.fullWord) :
    m.step? (.consumer false) = some { m with
      queue := { m.queue with word := SlotQueue.takingWord }
      consumer := .moving due } := by
  change m.stepConsumer? false = _
  rw [stepConsumer?, exchanging, SlotQueue.beginTake?, SlotQueue.exchange?, if_pos full]

theorem step?_vacate (moving : m.consumer = .moving due) :
    m.step? (.consumer s) = some { m with
      queue := m.queue.vacate
      consumer := .releasing due m.queue.slot
      taken := m.taken ++ m.queue.slot.toList } := by
  change m.stepConsumer? s = _
  rw [stepConsumer?, moving]

theorem step?_release (releasing : m.consumer = .releasing due got) :
    m.step? (.consumer s) = some { m with
      queue := m.queue.release
      consumer := .idle
      polls := m.polls ++ [(due, got)] } := by
  change m.stepConsumer? s = _
  rw [stepConsumer?, releasing]

end Consuming

section Meetings

variable {insist : Insist} {e x : E} {p : Producer E} {c : Consumer E} {q : SlotQueue E} {j k : Nat}

theorem Takes.busy (takes : Takes x k c q) : q.word ≠ SlotQueue.emptyWord := by
  cases takes <;> exact of_decide_eq_true rfl

theorem Waits.puts (waits : Waits insist e j p) : ∃ k ≤ 4, Puts insist e k p .empty := by
  cases waits with
  | unbegun => exact ⟨4, by decide, .unbegun⟩
  | trying => exact ⟨3, by decide, .trying⟩

/-- An event of the consumer brings it nearer to the element, or frees the slot. -/
theorem Meeting.consumer {s : Bool} (waits : Waits insist e j p) (takes : Takes x k c q)
    (scene : Scene p c q [] [] m) (step : m.step? (.consumer s) = some m') (differs : m' ≠ m) :
    ∃ n < j + k + 4, Meeting insist e x n m' := by
  obtain ⟨producer, consumer, queue, inserts, polls⟩ := scene
  have word : m.queue.word = q.word := congrArg SlotQueue.word queue
  cases takes with
  | unbegun =>
    rw [step?_consumer_idle consumer] at step
    cases step
  | loading =>
    obtain rfl := Option.some.inj ((step?_load consumer word).symm.trans step)
    exact ⟨j + 3 + 4, by omega,
      .taking waits .exchanging ⟨producer, rfl, queue, inserts, polls⟩ nofun⟩
  | exchanging =>
    cases s with
    | true =>
      -- An exchange that fails for no reason shows the full word again.
      obtain rfl := Option.some.inj ((step?_spurious consumer word).symm.trans step)
      exact absurd rfl differs
    | false =>
      obtain rfl := Option.some.inj ((step?_lock consumer word).symm.trans step)
      exact ⟨j + 2 + 4, by omega,
        .taking waits .moving ⟨producer, rfl, by rw [queue], inserts, polls⟩ nofun⟩
  | moving =>
    obtain rfl := Option.some.inj ((step?_vacate consumer).symm.trans step)
    exact ⟨j + 1 + 4, by omega,
      .taking waits .releasing ⟨producer, by rw [queue], by rw [queue]; rfl, inserts, polls⟩ nofun⟩
  | releasing =>
    obtain rfl := Option.some.inj ((step?_release consumer).symm.trans step)
    obtain ⟨k, le, puts⟩ := waits.puts
    exact ⟨k, by omega,
      .putting puts ⟨producer, rfl, by rw [queue]; rfl, inserts, by rw [polls]; rfl⟩⟩

/-- An insertion whose deadline does not pass spins while the slot is taken. -/
theorem turnDown_eq (insists : insist ≠ .once) {expired : Bool}
    (in_time : insist = .untilDeadline → expired = false) : m.turnDown e insist expired = m := by
  cases insist with
  | once => exact absurd rfl insists
  | always => rfl
  | untilDeadline =>
    rw [in_time rfl]
    rfl

theorem Meeting.goesOn_taking (insists : insist ≠ .once) (waits : Waits insist e j p)
    (takes : Takes x k c q) (scene : Scene p c q [] [] m) (due : c = .idle → m.due = some x)
    (change : Changes step? (OnceEach insist e) m m') :
    ∃ n < j + k + 4, Meeting insist e x n m' := by
  obtain ⟨v, may, step, differs⟩ := change
  cases v with
  | insert i f =>
    obtain ⟨rfl, rfl, -⟩ := may
    cases move_of_step? step with
    | insert idle =>
      obtain rfl := scene.producer.symm.trans idle
      cases waits
      exact ⟨0 + k + 4, by omega,
        .taking .trying takes ⟨rfl, scene.consumer, scene.queue, scene.inserts, scene.polls⟩ due⟩
  | producer expired =>
    have busy : m.queue.word ≠ SlotQueue.emptyWord := scene.queue ▸ takes.busy
    cases waits with
    | unbegun =>
      rw [step?_producer_idle scene.producer] at step
      cases step
    | trying =>
      rw [step?_busy scene.producer busy, turnDown_eq insists may] at step
      exact absurd (Option.some.inj step).symm differs
  | take =>
    cases move_of_step? step with
    | seek idle =>
      obtain rfl := scene.consumer.symm.trans idle
      cases takes
      exact ⟨j + 4 + 4, by omega, .taking waits .loading
        ⟨scene.producer, by rw [due rfl], scene.queue, scene.inserts, scene.polls⟩ nofun⟩
  | consumer s => exact consumer waits takes scene step differs
  | measure => exact absurd (Option.some.inj step).symm differs
  | look | reader => cases may

theorem Meeting.goesOn_putting (puts : Puts insist e k p q)
    (scene : Scene p .idle q [] [(some x, some x)] m)
    (change : Changes step? (OnceEach insist e) m m') :
    ∃ n < k, Meeting insist e x n m' := by
  obtain ⟨v, may, step, differs⟩ := change
  obtain ⟨producer, consumer, queue, inserts, polls⟩ := scene
  cases v with
  | insert i f =>
    obtain ⟨rfl, rfl, -⟩ := may
    cases move_of_step? step with
    | insert idle =>
      obtain rfl := producer.symm.trans idle
      cases puts
      exact ⟨3, by decide, .putting .trying ⟨rfl, consumer, queue, inserts, polls⟩⟩
  | producer expired =>
    cases puts with
    | unbegun =>
      rw [step?_producer_idle producer] at step
      cases step
    | trying =>
      have free : m.queue.word = SlotQueue.emptyWord := by
        rw [queue]
        rfl
      obtain rfl := Option.some.inj ((step?_claim producer free).symm.trans step)
      exact ⟨2, by decide, .putting .writing ⟨rfl, consumer, by rw [queue]; rfl, inserts, polls⟩⟩
    | writing =>
      obtain rfl := Option.some.inj ((step?_write producer).symm.trans step)
      exact ⟨1, by decide,
        .putting .publishing ⟨rfl, consumer, by rw [queue]; rfl, inserts, polls⟩⟩
    | publishing =>
      obtain rfl := Option.some.inj ((step?_publish producer).symm.trans step)
      exact ⟨0, by decide, .met ⟨rfl, consumer, by rw [queue]; rfl, by rw [inserts]; rfl, polls⟩⟩
  | take =>
    have fresh : m.polls = [] := may
    rw [polls] at fresh
    cases fresh
  | consumer s =>
    rw [step?_consumer_idle consumer] at step
    cases step
  | measure => exact absurd (Option.some.inj step).symm differs
  | look | reader => cases may

theorem Meeting.goesOn {n : Nat} (insists : insist ≠ .once) (meeting : Meeting insist e x n m)
    (change : Changes step? (OnceEach insist e) m m') : ∃ k < n, Meeting insist e x k m' := by
  cases meeting with
  | taking waits takes scene due => exact goesOn_taking insists waits takes scene due change
  | putting puts scene => exact goesOn_putting puts scene change
  | met returned =>
    obtain ⟨v, may, step, differs⟩ := change
    cases v with
    | insert i f =>
      have fresh : m.inserts = [] := may.2.2
      rw [returned.inserts] at fresh
      cases fresh
    | producer expired =>
      rw [step?_producer_idle returned.producer] at step
      cases step
    | take =>
      have fresh : m.polls = [] := may
      rw [returned.polls] at fresh
      cases fresh
    | consumer s =>
      rw [step?_consumer_idle returned.consumer] at step
      cases step
    | measure => exact absurd (Option.some.inj step).symm differs
    | look | reader => cases may

theorem Takes.exists_change (takes : Takes x k c q) (scene : Scene p c q [] [] m) :
    ∃ m', Changes step? (OnceEach insist e) m m' := by
  have was := scene.consumer
  have word : m.queue.word = q.word := congrArg SlotQueue.word scene.queue
  cases takes with
  | unbegun =>
    have step : m.step? .take = some { m with consumer := .loading m.due } := by
      rw [step?, was]
    exact ⟨_, .take, scene.polls, step, ne_of_view was (by simp)⟩
  | loading =>
    exact ⟨_, .consumer false, trivial, step?_load was word, ne_of_view was (by simp)⟩
  | exchanging =>
    exact ⟨_, .consumer false, trivial, step?_lock was word, ne_of_view was (by simp)⟩
  | moving =>
    exact ⟨_, .consumer false, trivial, step?_vacate was, ne_of_view was (by simp)⟩
  | releasing =>
    exact ⟨_, .consumer false, trivial, step?_release was, ne_of_view was (by simp)⟩

theorem Puts.exists_change (puts : Puts insist e k p q)
    (scene : Scene p .idle q [] [(some x, some x)] m) :
    ∃ m', Changes step? (OnceEach insist e) m m' := by
  have was := scene.producer
  have in_time : insist = .untilDeadline → false = false := fun _ => rfl
  cases puts with
  | unbegun =>
    have step : m.step? (.insert insist e) = some { m with producer := .trying insist e } := by
      rw [step?, was]
    exact ⟨_, .insert insist e, ⟨rfl, rfl, scene.inserts⟩, step, ne_of_view was (by simp)⟩
  | trying =>
    have free : m.queue.word = SlotQueue.emptyWord := by
      rw [scene.queue]
      rfl
    exact ⟨_, .producer false, in_time, step?_claim was free, ne_of_view was (by simp)⟩
  | writing =>
    exact ⟨_, .producer false, in_time, step?_write was, ne_of_view was (by simp)⟩
  | publishing =>
    exact ⟨_, .producer false, in_time, step?_publish was, ne_of_view was (by simp)⟩

theorem Meeting.rests {n : Nat} (meeting : Meeting insist e x n m) :
    BothReturned e x m ∨ ∃ m', Changes step? (OnceEach insist e) m m' := by
  cases meeting with
  | taking waits takes scene due => exact .inr (takes.exists_change scene)
  | putting puts scene => exact .inr (puts.exists_change scene)
  | met returned => exact .inl returned

/-- An insertion that insists and a taking both return, in whatever order their events come, as if
the taking had been made first. -/
theorem ends_handover (insists : insist ≠ .once) :
    Ends step? (OnceEach insist e) (BothReturned e x)
      (start ⟨SlotQueue.fullWord, some x⟩ 0) :=
  Schedule.ends_of_places (fun _ _ _ => Meeting.goesOn insists) (fun _ _ => Meeting.rests)
    (.taking .unbegun .unbegun ⟨rfl, rfl, rfl, rfl, rfl⟩ fun _ => rfl)

end Meetings

end QueueSupply.SlotMachine
