import QueueSupply.Proofs.Waiting.Pledges

set_option autoImplicit false

namespace QueueSupply.WaitingMachine

variable {E : Type} {m m' : WaitingMachine E} {v : Event E}

def Bounded (n : Nat) (m : WaitingMachine E) : Prop :=
  m.queue.capacity = n ∧ m.queue.contents.length ≤ n

theorem Sees.capacity {q : WaitingQueue E} {ask : Ask E} {expired : Bool} {looked : Looked E}
    (sees : Sees q ask expired looked) : looked.queue.capacity = q.capacity := by
  cases sees <;> rfl

theorem Sees.length_le {q : WaitingQueue E} {ask : Ask E} {expired : Bool} {looked : Looked E}
    (sees : Sees q ask expired looked) (within : q.contents.length ≤ q.capacity) :
    looked.queue.contents.length ≤ q.capacity := by
  cases sees with
  | rest | refuse => exact within
  | @insert _ _ e inserts room =>
    have lt : q.contents.length < q.capacity := by simpa [WaitingQueue.isFull] using room
    change (q.contents ++ [e]).length ≤ q.capacity
    rw [List.length_append]
    exact lt
  | take awaits held =>
    rw [held] at within
    exact Nat.le_of_succ_le within
  | poll held =>
    rw [held] at within
    exact Nat.le_of_succ_le within
  | clear => exact Nat.zero_le _

theorem Bounded.move {n : Nat} (h : Bounded n m) (move : Move m v m') : Bounded n m' := by
  cases move with
  | enter here looks free sees =>
    obtain ⟨rfl, within⟩ := h
    exact ⟨sees.capacity, sees.length_le within⟩
  | call | wake | pass | wakeAll | expire => exact h

def Conserved (m : WaitingMachine E) : Prop :=
  m.inserted = m.gone.map Prod.fst ++ m.queue.contents

theorem Sees.contents {q : WaitingQueue E} {ask : Ask E} {expired : Bool} {looked : Looked E}
    (sees : Sees q ask expired looked) :
    q.contents ++ looked.inserted = looked.gone.map Prod.fst ++ looked.queue.contents := by
  cases sees with
  | rest | refuse => exact List.append_nil _
  | insert => rfl
  | take awaits held =>
    rw [held]
    exact List.append_nil _
  | poll held =>
    rw [held]
    exact List.append_nil _
  | clear => simp [Function.comp_def]

theorem Conserved.move (h : Conserved m) (move : Move m v m') : Conserved m' := by
  cases move with
  | @enter i p ask expired looked here looks free sees =>
    calc m.inserted ++ looked.inserted
        = m.gone.map Prod.fst ++ (m.queue.contents ++ looked.inserted) := by
          rw [h, List.append_assoc]
      _ = (m.gone ++ looked.gone).map Prod.fst ++ looked.queue.contents := by
          rw [sees.contents, List.map_append, List.append_assoc]
  | call | wake | pass | wakeAll | expire => exact h

def Returned.accepted? : Returned E → Option E
  | .inserted e (.ok ()) => some e
  | _ => none

def Returned.taken? : Returned E → Option E
  | .option e => e
  | _ => none

def Party.result? : Party E → Option (Returned E)
  | .signalling _ r => some r
  | .owing _ r => some r
  | _ => none

def Exit.result? : Exit E → Option (Returned E)
  | .finish r => some r
  | .signal _ r => some r
  | .owe _ r => some r
  | .wait => none

def outcomes (f : Returned E → Option E) (m : WaitingMachine E) : List E :=
  Parties.gathered f (fun p => p.result?.bind f) m.returned m.parties

theorem Party.Looks.result? {p : Party E} {ask : Ask E} {expired : Bool}
    (looks : p.Looks ask expired) : p.result? = none := by
  cases looks <;> rfl

theorem Party.Notifies.result? {p : Party E} {c : Condition} {r : Returned E}
    (notifies : p.Notifies c r) : p.result? = some r := by
  cases notifies <;> rfl

theorem result?_notified (c : Condition) (p : Party E) : (p.notified c).result? = p.result? := by
  cases p with
  | waiting ask =>
    rw [Party.notified]
    split <;> rfl
  | idle | locking | woken | signalling | owing => rfl

theorem outcomes_enter {i : Nat} {p : Party E} {ask : Ask E} {expired : Bool}
    (here : m.parties[i]? = some p) (looks : p.Looks ask expired) (exit : Exit E)
    (f : Returned E → Option E) :
    (m.outcomes f ++ (exit.result?.bind f).toList).Perm
      (Parties.gathered f (fun p => p.result?.bind f) (m.returned ++ exit.returned i)
        (m.parties.set i (exit.party ask))) := by
  have nothing_before : p.result?.bind f = none := by
    rw [looks.result?]
    rfl
  have gained := Parties.gathered_gain f (fun p => p.result?.bind f) m.returned (exit.party ask)
    here nothing_before
  cases exit with
  | finish r => exact Parties.gathered_finish here nothing_before rfl
  | wait | signal | owe =>
    simp only [Exit.returned, List.append_nil]
    exact gained

/-- The elements inserted are those of the calls that succeeded in inserting one, and what has left
and was not thrown away is what the others have removed for their callers. -/
structure Accounted (m : WaitingMachine E) : Prop where
  accepted : m.inserted.Perm (m.outcomes Returned.accepted?)
  taken : (Parties.obtained m.gone).Perm (m.outcomes Returned.taken?)

theorem Refused.nothing {q : WaitingQueue E} {ask : Ask E} {expired : Bool} {r : Returned E}
    (refused : Refused q ask expired r) : r.accepted? = none ∧ r.taken? = none := by
  cases refused <;> exact ⟨rfl, rfl⟩

theorem Sees.accepted {q : WaitingQueue E} {ask : Ask E} {expired : Bool} {looked : Looked E}
    (sees : Sees q ask expired looked) :
    looked.inserted = (looked.exit.result?.bind Returned.accepted?).toList := by
  cases sees with
  | refuse refused =>
    change [] = (Returned.accepted? _).toList
    rw [refused.nothing.1]
    rfl
  | rest | insert | take | poll | clear => rfl

theorem Sees.taken {q : WaitingQueue E} {ask : Ask E} {expired : Bool} {looked : Looked E}
    (sees : Sees q ask expired looked) :
    Parties.obtained looked.gone = (looked.exit.result?.bind Returned.taken?).toList := by
  cases sees with
  | refuse refused =>
    change [] = (Returned.taken? _).toList
    rw [refused.nothing.2]
    rfl
  | clear => simp [Parties.obtained, Exit.result?, Returned.taken?]
  | rest | insert | take | poll => rfl

theorem Accounted.goOn (h : Accounted m) (inserted : m'.inserted = m.inserted)
    (gone : m'.gone = m.gone) (same : ∀ f, (m.outcomes f).Perm (m'.outcomes f)) :
    Accounted m' := by
  refine ⟨?_, ?_⟩
  · rw [inserted]
    exact h.accepted.trans (same _)
  · rw [gone]
    exact h.taken.trans (same _)

theorem outcomes_wakeAll {i : Nat} {r : Returned E}
    (here : m.parties[i]? = some (.owing true r)) (f : Returned E → Option E) :
    (m.outcomes f).Perm
      (({ m with parties := m.parties.map (Party.notified .notFull) }.finish i r).outcomes f) := by
  have there : (m.parties.map (Party.notified .notFull))[i]? = some (.owing true r) := by
    rw [List.getElem?_map, here]
    rfl
  have same : (m.parties.map (Party.notified .notFull)).filterMap (fun p => p.result?.bind f) =
      m.parties.filterMap fun p => p.result?.bind f := by
    rw [List.filterMap_map]
    apply List.filterMap_congr
    intro p _
    rw [Function.comp_apply, result?_notified]
  rw [outcomes, Parties.gathered, ← same]
  exact Parties.gathered_return there rfl rfl

theorem Accounted.move (h : Accounted m) (move : Move m v m') : Accounted m' := by
  cases move with
  | call here => exact h.goOn rfl rfl fun f => Parties.gathered_goOn here rfl
  | @enter i p ask expired looked here looks free sees =>
    have inserted := (h.accepted.append_right looked.inserted)
    have gone := h.taken.append_right (Parties.obtained looked.gone)
    rw [← Parties.obtained_append] at gone
    constructor
    · apply inserted.trans
      rw [sees.accepted]
      exact outcomes_enter here looks looked.exit Returned.accepted?
    · apply gone.trans
      rw [sees.taken]
      exact outcomes_enter here looks looked.exit Returned.taken?
  | @wake i j p c r ask holder here notifies there awaits =>
    refine h.goOn rfl rfl ?_
    intro f
    have woken : (m.outcomes f).Perm ((m.setParty j (.woken ask false)).outcomes f) :=
      Parties.gathered_goOn there rfl
    apply woken.trans
    apply Parties.gathered_return (notifies.apart here there) _ rfl
    rw [notifies.result?]
    rfl
  | pass here notifies nobody =>
    refine h.goOn rfl rfl ?_
    intro f
    apply Parties.gathered_return here _ rfl
    rw [notifies.result?]
    rfl
  | wakeAll here => exact h.goOn rfl rfl (outcomes_wakeAll here)
  | expire here hasDeadline => exact h.goOn rfl rfl fun f => Parties.gathered_goOn here rfl

def Returned.refuses : Returned E → Bool
  | .inserted _ (.error _) => true
  | .option none => true
  | _ => false

/-- A call that has still to notify did what it was asked for. -/
def Succeeds (m : WaitingMachine E) : Prop :=
  ∀ p ∈ m.parties, ∀ r, p.result? = some r → r.refuses = false

theorem Sees.succeeds {q : WaitingQueue E} {ask : Ask E} {expired : Bool} {looked : Looked E}
    (sees : Sees q ask expired looked) {r : Returned E}
    (pending : (looked.exit.party ask).result? = some r) : r.refuses = false := by
  cases sees with
  | rest | refuse => cases pending
  | insert | take | poll | clear =>
    obtain rfl := Option.some.inj pending
    rfl

theorem Succeeds.set {i : Nat} {new : Party E} (h : Succeeds m)
    (succeeds : ∀ r, new.result? = some r → r.refuses = false) :
    ∀ p ∈ m.parties.set i new, ∀ r, p.result? = some r → r.refuses = false := by
  intro p mem
  rcases List.mem_or_eq_of_mem_set mem with mem | rfl
  · exact h p mem
  · exact succeeds

theorem Succeeds.move (h : Succeeds m) (move : Move m v m') : Succeeds m' := by
  cases move with
  | call | pass | expire => exact h.set nofun
  | enter here looks free sees => exact h.set fun r => sees.succeeds
  | @wake i j p c r ask holder here notifies there awaits =>
    have woken : Succeeds (m.setParty j (.woken ask false)) := h.set nofun
    exact woken.set nofun
  | wakeAll here =>
    have notified : Succeeds { m with parties := m.parties.map (Party.notified .notFull) } := by
      intro p mem r pending
      obtain ⟨old, was, rfl⟩ := List.mem_map.mp mem
      rw [result?_notified] at pending
      exact h old was r pending
    exact notified.set nofun

theorem returned_of_move (move : Move m v m') :
    ∃ later, m'.returned = m.returned ++ later ∧ later.length ≤ 1 := by
  cases move with
  | call | expire => exact ⟨[], (List.append_nil _).symm, Nat.zero_le _⟩
  | @enter i p ask expired looked here looks free sees =>
    refine ⟨looked.exit.returned i, rfl, ?_⟩
    cases looked.exit with
    | finish => exact Nat.le_refl _
    | wait | signal | owe => exact Nat.zero_le _
  | wake | pass | wakeAll => exact ⟨[_], rfl, Nat.le_refl _⟩

/-- Only a call that looks and is turned down returns without having done what it was asked for. -/
theorem refused_of_move (h : Succeeds m) (move : Move m v m') {i : Nat} {r : Returned E}
    (recorded : m'.returned = m.returned ++ [(i, r)]) (refuses : r.refuses = true) :
    v = .enter i ∧ m' = m.finish i r ∧ ∃ p ask expired, m.parties[i]? = some p ∧
      p.Looks ask expired ∧ Refused m.queue ask expired r := by
  have not_pending : ∀ {j : Nat} {p : Party E} {s : Returned E}, m.parties[j]? = some p →
      p.result? = some s → m.returned ++ [(j, s)] ≠ m.returned ++ [(i, r)] := by
    intro j p s here pending eq
    obtain ⟨rfl, rfl⟩ := Prod.mk.inj (List.singleton_inj.mp (List.append_cancel_left eq))
    rw [h p (List.mem_of_getElem? here) s pending] at refuses
    cases refuses
  cases move with
  | call | expire => simp [setParty] at recorded
  | @enter j p ask expired looked here looks free sees =>
    have now := List.append_cancel_left recorded
    cases sees with
    | refuse refused =>
      obtain ⟨rfl, rfl⟩ := Prod.mk.inj (List.singleton_inj.mp now)
      refine ⟨rfl, ?_, p, ask, expired, here, looks, refused⟩
      simp [finish, setParty, unchanged, Exit.holder, Exit.party, Exit.returned, free]
    | rest | insert | take | poll | clear => cases now
  | wake here notifies there awaits => exact absurd recorded (not_pending here notifies.result?)
  | pass here notifies nobody => exact absurd recorded (not_pending here notifies.result?)
  | wakeAll here => exact absurd recorded (not_pending here rfl)

structure Sound (n : Nat) (m : WaitingMachine E) : Prop where
  bounded : Bounded n m
  conserved : Conserved m
  accounted : Accounted m
  succeeds : Succeeds m
  covered : ∀ c, Covered c m.queue m.parties

theorem sound_start (n parties : Nat) :
    Sound n (start (.ofCapacity n : WaitingQueue E) parties) where
  bounded := ⟨rfl, Nat.zero_le _⟩
  conserved := rfl
  accounted := by
    have nothing_returned : ∀ f : Returned E → Option E,
        (start (.ofCapacity n) parties).outcomes f = [] := by
      intro f
      apply List.filterMap_eq_nil_iff.mpr
      intro p mem
      rw [List.eq_of_mem_replicate mem]
      rfl
    constructor <;> rw [nothing_returned] <;> exact List.Perm.nil
  succeeds p mem := by
    rw [List.eq_of_mem_replicate mem]
    nofun
  covered c := by
    left
    apply List.countP_eq_zero.mpr
    intro p mem
    rw [List.eq_of_mem_replicate mem]
    exact Bool.false_ne_true

theorem sound_of_run {n parties : Nat} {events : List (Event E)}
    (run : Schedule.run? step? (start (.ofCapacity n) parties) events = some m) : Sound n m := by
  refine Schedule.invariant_of_run? ?_ events (sound_start n parties) run
  intro s v t sound step
  have move := move_of_step? step
  exact ⟨sound.bounded.move move, sound.conserved.move move, sound.accounted.move move,
    sound.succeeds.move move, fun c => (sound.covered c).move move⟩

/-- No more than `n` elements are held, those inserted have left or are held, in order, and those
that have left were removed by calls for their callers or thrown away, each once. -/
structure Conserves (n : Nat) (m : WaitingMachine E) : Prop where
  length_le : m.queue.contents.length ≤ n
  inserted_eq : m.inserted = m.gone.map Prod.fst ++ m.queue.contents
  inserted_perm : m.inserted.Perm (m.outcomes Returned.accepted?)
  gone_perm : (m.gone.map Prod.fst).Perm
    (m.outcomes Returned.taken? ++ Parties.thrown m.gone)

theorem Sound.conserves {n : Nat} (h : Sound n m) : Conserves n m where
  length_le := h.bounded.2
  inserted_eq := h.conserved
  inserted_perm := h.accounted.accepted
  gone_perm := (Parties.gone_perm m.gone).trans (h.accounted.taken.append_right _)

/-- The result that was recorded as number `k` was given by one event of the run, at which party `i`
looked. It found the machine as described and changed nothing but to return `r`. -/
def GivenUp (s : WaitingMachine E) (events : List (Event E)) (k i : Nat) (r : Returned E)
    (found : WaitingMachine E → Prop) : Prop :=
  ∃ past later before, events = past ++ .enter i :: later ∧
    Schedule.run? step? s past = some before ∧ before.returned.length = k ∧
      step? before (.enter i) = some (before.finish i r) ∧ found before

theorem givenUp_of_run {n parties : Nat} {events : List (Event E)}
    (run : Schedule.run? step? (start (.ofCapacity n) parties) events = some m) {k i : Nat}
    {r : Returned E} (recorded : m.returned[k]? = some (i, r)) (refuses : r.refuses = true) :
    GivenUp (start (.ofCapacity n) parties) events k i r fun before => Bounded n before ∧
      ∃ p ask expired, before.parties[i]? = some p ∧ p.Looks ask expired ∧
        Refused before.queue ask expired r := by
  obtain ⟨past, w, later, before, after, split, ran, step, at_k, log⟩ :=
    Schedule.moment_of_run? WaitingMachine.returned rfl
      (fun s v t step => returned_of_move (move_of_step? step)) run recorded
  have sound := sound_of_run ran
  obtain ⟨rfl, rfl, found⟩ := refused_of_move sound.succeeds (move_of_step? step) log refuses
  exact ⟨past, later, before, split, ran, at_k, step, sound.bounded, found⟩

/-- An element is handed back only at a moment at which `n` elements are held, and as overdue only
to a call whose deadline has passed. A removal comes back with nothing only at a moment at which
nothing is held. -/
structure GivesUpRightly (n : Nat) (s : WaitingMachine E) (events : List (Event E))
    (m : WaitingMachine E) : Prop where
  handed_back : ∀ k i e err, m.returned[k]? = some (i, .inserted e (.error err)) →
    (err = .full e ∨ err = .timeout e) ∧
      GivenUp s events k i (.inserted e (.error err)) fun before =>
        before.queue.contents.length = n ∧
          (err = .timeout e → before.parties[i]? = some (.woken (.putWithin e) true))
  nothing : ∀ k i, m.returned[k]? = some (i, .option none) →
    GivenUp s events k i (.option none) fun before => before.queue.contents = []

theorem Bounded.length_of_full {n : Nat} (h : Bounded n m) (full : m.queue.isFull = true) :
    m.queue.contents.length = n := by
  obtain ⟨rfl, le⟩ := h
  exact Nat.le_antisymm le (of_decide_eq_true full)

theorem givesUpRightly_of_run {n parties : Nat} {events : List (Event E)}
    (run : Schedule.run? step? (start (.ofCapacity n) parties) events = some m) :
    GivesUpRightly n (start (.ofCapacity n) parties) events m where
  handed_back k i e err recorded := by
    obtain ⟨past, later, before, split, ran, at_k, step, bounded, p, ask, expired, here, looks,
      refused⟩ := givenUp_of_run run recorded rfl
    cases refused with
    | timeout full =>
      cases looks
      exact ⟨.inr rfl, past, later, before, split, ran, at_k, step,
        bounded.length_of_full full, fun _ => here⟩
    | full full =>
      exact ⟨.inl rfl, past, later, before, split, ran, at_k, step,
        bounded.length_of_full full, nofun⟩
  nothing k i recorded := by
    obtain ⟨past, later, before, split, ran, at_k, step, bounded, p, ask, expired, here, looks,
      refused⟩ := givenUp_of_run run recorded rfl
    cases refused with
    | nothingCame empty | nothingThere empty =>
      exact ⟨past, later, before, split, ran, at_k, step, empty⟩

/-- When no party has still to notify and none that was notified has still to look, a party that
waits for room waits at a full queue, and one that waits for an element at an empty one. -/
def NobodyStuck (m : WaitingMachine E) : Prop :=
  (∀ p ∈ m.parties, p.settled = true) → ∀ p ∈ m.parties,
    (p.awaits? = some .notFull → m.queue.isFull = true) ∧
      (p.awaits? = some .notEmpty → m.queue.contents = [])

theorem Sound.nobodyStuck {n : Nat} (h : Sound n m) : NobodyStuck m := by
  intro settled p mem
  constructor
  · intro awaits
    exact (isFull_iff m.queue).mpr ((h.covered .notFull).supply_of_settled settled mem awaits)
  · intro awaits
    exact (contents_eq_nil_iff m.queue).mpr
      ((h.covered .notEmpty).supply_of_settled settled mem awaits)

/-- Along every run from the empty queue, with any number of parties, no element is lost or doubled,
no call gives up without a reason, and no notification is lost. -/
theorem run_keeps_elements_and_notifications (n parties : Nat) (events : List (Event E))
    (m : WaitingMachine E)
    (run : Schedule.run? step? (start (.ofCapacity n) parties) events = some m) :
    Conserves n m ∧ GivesUpRightly n (start (.ofCapacity n) parties) events m ∧ NobodyStuck m := by
  have sound := sound_of_run run
  exact ⟨sound.conserves, givesUpRightly_of_run run, sound.nobodyStuck⟩

/-- At a queue for one element, party 0 waits for room, the deadline of party 1 passes meanwhile, a
poll makes room and wakes party 0, and at the end party 2 waits for room. -/
def waitExpirePoll : List (Event Nat) :=
  [.call 0 (.put 1), .enter 0, .notifyOne 0 none, .call 0 (.put 2), .enter 0,
    .call 1 (.putWithin 3), .enter 1, .expire 1, .enter 1,
    .call 2 .poll, .enter 2, .notifyOne 2 (some 0), .enter 0, .notifyOne 0 none,
    .call 2 (.put 4), .enter 2]

theorem run_keeps_elements_and_notifications_waitExpirePoll :
    ∃ m : WaitingMachine Nat,
      Schedule.run? step? (start (.ofCapacity 1) 3) waitExpirePoll = some m ∧
        m.returned = [(0, .inserted 1 (.ok ())), (1, .inserted 3 (.error (.timeout 3))),
          (2, .option (some 1)), (0, .inserted 2 (.ok ()))] ∧
          m.parties = [.idle, .idle, .waiting (.put 4)] ∧
            Conserves 1 m ∧ GivesUpRightly 1 (start (.ofCapacity 1) 3) waitExpirePoll m ∧
              NobodyStuck m :=
  ⟨_, rfl, rfl, rfl, run_keeps_elements_and_notifications 1 3 waitExpirePoll _ rfl⟩

end QueueSupply.WaitingMachine
