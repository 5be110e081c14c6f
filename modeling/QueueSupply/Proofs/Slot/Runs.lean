import QueueSupply.Proofs.Slot.Records

set_option autoImplicit false

namespace QueueSupply.SlotMachine

variable {E : Type} {m m' : SlotMachine E} {v : Event E}

structure Sound (m : SlotMachine E) : Prop where
  place : ∃ s, At m s
  paid : Paid m

theorem sound_start (readers : Nat) : Sound (start (.empty : SlotQueue E) readers) where
  place := ⟨.empty, at_start readers⟩
  paid := by
    refine ⟨?_, rfl⟩
    intro p mem
    cases mem

theorem Sound.step (h : Sound m) (step : m.step? v = some m') : Sound m' := by
  have move := move_of_step? step
  obtain ⟨s, place⟩ := h.place
  exact ⟨place.move move, h.paid.move place move⟩

theorem sound_of_run {readers : Nat} {events : List (Event E)}
    (run : Schedule.run? step? (start .empty readers) events = some m) : Sound m :=
  Schedule.invariant_of_run? (fun _ _ _ sound step => sound.step step) events (sound_start readers)
    run

/-- The word counts the readers inside, without running over, and they are there at the full phase
only. The slot is let alone while any of them is there. -/
structure Guarded (readers : Nat) (m : SlotMachine E) : Prop where
  counted : SlotQueue.readersOf m.queue.word = m.inside
  word_lt : m.queue.word < SlotQueue.readerUnit * (readers + 1)
  full : m.inside ≠ 0 → SlotQueue.phaseOf m.queue.word = SlotQueue.fullWord
  unwritten : m.inside ≠ 0 → ∀ e, m.producer ≠ .writing e
  unmoved : m.inside ≠ 0 → ∀ due, m.consumer ≠ .moving due
  untouched : m.inside ≠ 0 → ∀ v m', m.step? v = some m' → m'.queue.slot = m.queue.slot

theorem At.word_lt {s : Stage E} (h : At m s) :
    m.queue.word < SlotQueue.readerUnit * (m.readers.length + 1) := by
  have word := h.word
  have phase := s.word_lt
  have inside : m.inside ≤ m.readers.length := List.countP_le_length
  rw [SlotQueue.readerUnit] at word phase ⊢
  omega

theorem At.guarded {s : Stage E} (h : At m s) : Guarded m.readers.length m := by
  have unwritten : m.inside ≠ 0 → ∀ e, m.producer ≠ .writing e := by
    intro anybody e writing
    obtain rfl := h.at_claimed writing
    exact anybody (h.nobody_inside (fun _ eq => by cases eq))
  have unmoved : m.inside ≠ 0 → ∀ due, m.consumer ≠ .moving due := by
    intro anybody due moving
    obtain ⟨e, rfl, _⟩ := h.at_locked moving
    exact anybody (h.nobody_inside (fun _ eq => by cases eq))
  refine ⟨h.readersOf_word, h.word_lt, ?_, unwritten, unmoved, ?_⟩
  · intro anybody
    obtain ⟨e, rfl⟩ := h.shared anybody
    exact h.phaseOf_word
  · intro anybody v m' step
    exact (move_of_step? step).slot_eq (unwritten anybody) (unmoved anybody)

/-- The elements taken are those whose insertions succeeded, in order and each once, but for the
last one accepted; every insertion that ended did so as it may. -/
structure Conserved (events : List (Event E)) (m : SlotMachine E) : Prop where
  ended_le : m.inserts.length ≤ (begun events).length
  begun_le : (begun events).length ≤ m.inserts.length + 1
  settled : ∀ o ∈ (begun events).zip m.inserts, Settled o.1 o.2
  succeeded_eq : succeeded ((begun events).zip m.inserts) = m.taken ++ m.due.toList
  taken_eq : m.taken = m.polls.filterMap Prod.snd ++ m.consumer.inHand.toList

theorem Booked.conserved {events : List (Event E)} (booked : Booked events m) (sound : Sound m) :
    Conserved events m := by
  obtain ⟨done, held, eq, holds, tally⟩ := booked
  obtain ⟨s, place⟩ := sound.place
  have zip : (begun events).zip m.inserts = done.zip m.inserts := by
    calc
      (begun events).zip m.inserts = (done ++ held).zip (m.inserts ++ []) := by
        rw [eq, List.append_nil]
      _ = done.zip m.inserts ++ held.zip [] := List.zip_append tally.length_eq
      _ = done.zip m.inserts := by rw [List.zip_nil_right, List.append_nil]
  have length : (begun events).length = m.inserts.length + held.length := by
    rw [eq, List.length_append, tally.length_eq]
  have short := holds.length_le
  refine ⟨by omega, by omega, ?_, ?_, sound.paid.taken⟩
  · rw [zip]
    exact tally.settled
  · rw [zip, tally.succeeded_zip, place.due]
    exact place.accepted

theorem booked_of_run {readers : Nat} {events : List (Event E)}
    (run : Schedule.run? step? (start .empty readers) events = some m) : Booked events m :=
  have initially : Booked [] (start (.empty : SlotQueue E) readers) := ⟨[], [], rfl, rfl, .nil⟩
  Schedule.history_of_run? initially
    (fun _ _ _ _ _ booked step => booked.move (move_of_step? step)) events run

def Consumer.asked : Consumer E → Option (Option E)
  | .idle => none
  | .loading due => some due
  | .exchanging due => some due
  | .moving due => some due
  | .releasing due _ => some due

theorem Consumer.Seeks.asked {c : Consumer E} {due : Option E} (h : c.Seeks due) :
    c.asked = some due := by
  cases h <;> rfl

def Pending (n : Nat) (due : Option E) (m : SlotMachine E) : Prop :=
  (m.polls.length = n ∧ m.consumer.asked = some due) ∨ ∃ got, m.polls[n]? = some (due, got)

theorem Pending.recorded {n : Nat} {due got : Option E} (length : m.polls.length = n)
    (polls : m'.polls = m.polls ++ [(due, got)]) : Pending n due m' := by
  refine .inr ⟨got, ?_⟩
  rw [polls, ← length]
  exact List.getElem?_concat_length

theorem Pending.move {n : Nat} {due : Option E} (h : Pending n due m) (move : Move m v m') :
    Pending n due m' := by
  obtain ⟨length, asked⟩ | ⟨got, eq⟩ := h
  · cases move with
    | seek idle =>
      rw [idle] at asked
      cases asked
    | goOn seeks still => exact .inl ⟨length, still.asked.trans (seeks.asked.symm.trans asked)⟩
    | giveUp seeks off =>
      obtain rfl := Option.some.inj (seeks.asked.symm.trans asked)
      exact Pending.recorded length rfl
    | lock exchanging full =>
      rw [exchanging] at asked
      exact .inl ⟨length, asked⟩
    | vacate moving =>
      rw [moving] at asked
      exact .inl ⟨length, asked⟩
    | release releasing =>
      rw [releasing] at asked
      obtain rfl := Option.some.inj asked
      exact Pending.recorded length rfl
    | insert | retry | refuse | claim | write | publish | look | aim | miss | enter | read | leave
    | measure => exact .inl ⟨length, asked⟩
  · obtain ⟨later, polls⟩ := move.polls_append
    obtain ⟨lt, _⟩ := List.getElem?_eq_some_iff.mp eq
    refine .inr ⟨got, ?_⟩
    rw [polls, List.getElem?_append_left lt]
    exact eq

/-- A poll that begins when `e` has been accepted and not yet taken returns it. -/
def ReturnsDue (readers : Nat) (events : List (Event E)) (m : SlotMachine E) : Prop :=
  ∀ past later before e, events = past ++ .take :: later →
    Schedule.run? step? (start .empty readers) past = some before → before.due = some e →
    ∀ p, m.polls[before.polls.length]? = some p → p.2 = some e

theorem pending_of_run {before : SlotMachine E} {later : List (Event E)}
    (run : Schedule.run? step? before (.take :: later) = some m) :
    Pending before.polls.length before.due m := by
  rw [Schedule.run?, List.foldlM_cons] at run
  obtain ⟨mid, step, rest⟩ := Option.bind_eq_some_iff.mp run
  have begun : Pending before.polls.length before.due mid := by
    cases move_of_step? step with
    | seek idle => exact .inl ⟨rfl, rfl⟩
  exact Schedule.invariant_of_run?
    (fun _ _ _ pending step => Pending.move pending (move_of_step? step)) later begun rest

theorem returnsDue_of_run {readers : Nat} {events : List (Event E)}
    (run : Schedule.run? step? (start .empty readers) events = some m) :
    ReturnsDue readers events m := by
  intro past later before e split reaches due p recorded
  have rest : Schedule.run? step? before (.take :: later) = some m := by
    rw [split, Schedule.run?_append, reaches] at run
    exact run
  obtain ⟨lt, _⟩ := List.getElem?_eq_some_iff.mp recorded
  obtain ⟨length, _⟩ | ⟨got, eq⟩ := pending_of_run rest
  · omega
  · obtain rfl := Option.some.inj (eq.symm.trans recorded)
    exact (sound_of_run run).paid.polls _ (List.mem_of_getElem? recorded) e due

/-- The consumer ends its poll with `e` in at most `k` steps of its own. -/
def Finishes (k : Nat) (m : SlotMachine E) (e : E) : Prop :=
  ∃ n ≤ k, ∃ m', Schedule.run? step? m (List.replicate n (.consumer false)) = some m' ∧
    m'.polls = m.polls ++ [(some e, some e)]

theorem Finishes.after {k : Nat} {e : E} (step : m.step? (.consumer false) = some m')
    (polls : m'.polls = m.polls) (h : Finishes k m' e) : Finishes (k + 1) m e := by
  obtain ⟨n, le, last, run, eq⟩ := h
  refine ⟨n + 1, Nat.succ_le_succ le, last, ?_, polls ▸ eq⟩
  rw [List.replicate_succ, Schedule.run?, List.foldlM_cons, step]
  exact run

theorem Finishes.weaken {j k : Nat} {e : E} (h : Finishes j m e) (le : j ≤ k) : Finishes k m e := by
  obtain ⟨n, short, rest⟩ := h
  exact ⟨n, Nat.le_trans short le, rest⟩

theorem Finishes.at_once {e : E} (step : m.step? (.consumer false) = some m')
    (polls : m'.polls = m.polls ++ [(some e, some e)]) : Finishes 1 m e := by
  refine ⟨1, Nat.le_refl 1, m', ?_, polls⟩
  change Schedule.run? step? m [.consumer false] = some m'
  rw [Schedule.run?, List.foldlM_cons, step]
  rfl

theorem At.finishes_of_releasing {s : Stage E} {e : E} {got : Option E} (h : At m s)
    (state : m.consumer = .releasing (some e) got) : Finishes 1 m e := by
  obtain ⟨_, meets⟩ := h.at_vacated state
  obtain rfl := meets e rfl
  have step : m.step? (.consumer false) = some { m with
      queue := m.queue.release
      consumer := .idle
      polls := m.polls ++ [(some e, some e)] } := by
    change m.stepConsumer? false = _
    rw [stepConsumer?, state]
  exact Finishes.at_once step rfl

theorem At.finishes_of_moving {s : Stage E} {e : E} (h : At m s)
    (state : m.consumer = .moving (some e)) : Finishes 2 m e := by
  have step : m.step? (.consumer false) = some { m with
      queue := m.queue.vacate
      consumer := .releasing (some e) m.queue.slot
      taken := m.taken ++ m.queue.slot.toList } := by
    change m.stepConsumer? false = _
    rw [stepConsumer?, state]
  obtain ⟨t, next⟩ := h.move (move_of_step? step)
  exact Finishes.after step rfl (next.finishes_of_releasing rfl)

theorem At.word_of_seeks {s : Stage E} {e : E} (h : At m s) (nobody : m.inside = 0)
    (seeks : m.consumer.Seeks (some e)) : m.queue.word = SlotQueue.fullWord := by
  have due := h.meets_of_seeks seeks e rfl
  by_cases full : SlotQueue.phaseOf m.queue.word = SlotQueue.fullWord
  · obtain ⟨e, rfl⟩ := h.at_full full
    exact h.word_of_nobody nobody
  · rw [h.due_none seeks full] at due
    cases due

theorem At.finishes_of_exchanging {s : Stage E} {e : E} (h : At m s) (nobody : m.inside = 0)
    (state : m.consumer = .exchanging (some e)) : Finishes 3 m e := by
  have word := h.word_of_seeks nobody (e := e) (state ▸ .exchanging)
  have step : m.step? (.consumer false) = some { m with
      queue := { m.queue with word := SlotQueue.takingWord }
      consumer := .moving (some e) } := by
    change m.stepConsumer? false = _
    rw [stepConsumer?, state, SlotQueue.beginTake?, SlotQueue.exchange?, if_pos word]
  obtain ⟨t, next⟩ := h.move (move_of_step? step)
  exact Finishes.after step rfl (next.finishes_of_moving rfl)

theorem At.finishes_of_loading {s : Stage E} {e : E} (h : At m s) (nobody : m.inside = 0)
    (state : m.consumer = .loading (some e)) : Finishes 4 m e := by
  have word := h.word_of_seeks nobody (e := e) (state ▸ .loading)
  have step : m.step? (.consumer false) = some { m with consumer := .exchanging (some e) } := by
    change m.stepConsumer? false = _
    rw [stepConsumer?, state, word]
    rfl
  obtain ⟨t, next⟩ := h.move (move_of_step? step)
  exact Finishes.after step rfl (next.finishes_of_exchanging nobody rfl)

theorem Sound.finishes {e : E} (sound : Sound m) (asked : m.consumer.asked = some (some e))
    (nobody : m.inside = 0) : Finishes 4 m e := by
  obtain ⟨s, place⟩ := sound.place
  cases state : m.consumer with
  | idle =>
    rw [state] at asked
    cases asked
  | loading due =>
    rw [state] at asked
    obtain rfl := Option.some.inj asked
    exact place.finishes_of_loading nobody state
  | exchanging due =>
    rw [state] at asked
    obtain rfl := Option.some.inj asked
    exact (place.finishes_of_exchanging nobody state).weaken (by decide)
  | moving due =>
    rw [state] at asked
    obtain rfl := Option.some.inj asked
    exact (place.finishes_of_moving state).weaken (by decide)
  | releasing due got =>
    rw [state] at asked
    obtain rfl := Option.some.inj asked
    exact (place.finishes_of_releasing state).weaken (by decide)

/-- What a look returned was in the slot when its reader was still inside. -/
def ShowsPresent (readers : Nat) (events : List (Event E)) (m : SlotMachine E) : Prop :=
  ∀ k i due e, m.looks[k]? = some (i, due, some e) →
    ∃ past s later before, events = past ++ .reader i s :: later ∧
      Schedule.run? step? (start .empty readers) past = some before ∧
      before.looks.length = k ∧ before.readers[i]? = some (.leaving due (some e)) ∧
      before.queue.slot = some e ∧ before.due = some e

theorem Sound.slot_of_leaving {i : Nat} {due : Option E} {e : E} (sound : Sound m)
    (leaving : m.readers[i]? = some (.leaving due (some e))) :
    m.queue.slot = some e ∧ m.due = some e := by
  obtain ⟨s, place⟩ := sound.place
  obtain ⟨e', rfl⟩ := place.shared (Nat.ne_of_gt (inside_pos leaving rfl))
  obtain ⟨_, eq⟩ := place.readers _ (List.mem_of_getElem? leaving)
  rw [place.slot, place.due]
  exact ⟨eq.symm, eq.symm⟩

theorem showsPresent_of_run {readers : Nat} {events : List (Event E)}
    (run : Schedule.run? step? (start .empty readers) events = some m) :
    ShowsPresent readers events m := by
  have grows : ∀ (s : SlotMachine E) v t, s.step? v = some t →
      ∃ later, t.looks = s.looks ++ later ∧ later.length ≤ 1 := by
    intro s v t step
    obtain ⟨later, looks, short, _⟩ := (move_of_step? step).looks_append
    exact ⟨later, looks, short⟩
  intro k i due e recorded
  obtain ⟨past, v, later, before, after, split, ran, step, at_k, log⟩ :=
    Schedule.moment_of_run? SlotMachine.looks rfl grows run recorded
  -- The event that records a look is the one at which its reader leaves.
  obtain ⟨new, looks, _, left⟩ := (move_of_step? step).looks_append
  obtain rfl := List.append_cancel_left (log.symm.trans looks)
  obtain ⟨⟨s, rfl⟩, leaving⟩ := left i due e List.mem_cons_self
  exact ⟨past, s, later, before, split, ran, at_k, leaving,
    (sound_of_run ran).slot_of_leaving leaving⟩

theorem readers_length_of_run {readers : Nat} {events : List (Event E)}
    (run : Schedule.run? step? (start .empty readers) events = some m) :
    m.readers.length = readers :=
  Schedule.invariant_of_run?
    (fun _ _ _ length step => (move_of_step? step).readers_length.trans length) events
    List.length_replicate run

/-- Along every run from the empty slot, with any number of readers: the word counts the readers
and guards the slot, what is taken is what was accepted, a poll returns the element due to it and
is held up by readers only, and a look returns what was in the slot during it. -/
theorem run_guarded_and_in_order (readers : Nat) (events : List (Event E)) (m : SlotMachine E)
    (run : Schedule.run? step? (start .empty readers) events = some m) :
    Guarded readers m ∧ Conserved events m ∧ ReturnsDue readers events m ∧
      (∀ e, m.consumer.asked = some (some e) → m.inside = 0 → Finishes 4 m e) ∧
      ShowsPresent readers events m := by
  have sound := sound_of_run run
  obtain ⟨s, place⟩ := sound.place
  have guarded := place.guarded
  rw [readers_length_of_run run] at guarded
  refine ⟨guarded, (booked_of_run run).conserved sound, returnsDue_of_run run, ?_,
    showsPresent_of_run run⟩
  intro e asked nobody
  exact sound.finishes asked nobody

/-- A reader is inside when the consumer begins, and the consumer waits for it. -/
def handover : List (Event Nat) :=
  .insert .once 7 :: List.replicate 3 (.producer false) ++
    .look 0 :: List.replicate 2 (.reader 0 false) ++ [.take, .consumer false] ++
      List.replicate 2 (.reader 0 false) ++ List.replicate 4 (.consumer false)

theorem run_guarded_and_in_order_handover :
    ∃ m, Schedule.run? step? (start .empty 1) handover = some m ∧ m.polls = [(some 7, some 7)] ∧
      Guarded 1 m ∧ Conserved handover m ∧ ReturnsDue 1 handover m ∧
      (∀ e, m.consumer.asked = some (some e) → m.inside = 0 → Finishes 4 m e) ∧
      ShowsPresent 1 handover m :=
  ⟨_, rfl, rfl, run_guarded_and_in_order 1 handover _ rfl⟩

end QueueSupply.SlotMachine
