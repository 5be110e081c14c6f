import QueueSupply.Proofs.Endings
import QueueSupply.Proofs.Timed.Calls
import QueueSupply.Proofs.Waiting.Runs

set_option autoImplicit false

namespace QueueSupply.WaitingMachine

open Schedule (Changes Ends)

variable {E : Type} {m m' : WaitingMachine E} {v : Event E}

/-- What a call comes to, told by what an offer or a poll would do; none if it waits for ever. -/
def Ask.outcome? (q : WaitingQueue E) : Ask E → Option (Returned E × WaitingQueue E)
  | .put e => (onceAccepted (q.offer e)).map (Prod.map (.inserted e) id)
  | .putWithin e => some (Prod.map (fun r => .inserted e (late r)) id (q.offer e))
  | .take =>
    match q.poll with
    | (some e, q) => some (.option (some e), q)
    | (none, _) => none
  | .takeWithin => some (Prod.map .option id q.poll)
  | .offer e => some (Prod.map (.inserted e) id (q.offer e))
  | .poll => some (Prod.map .option id q.poll)
  | .clear => some (.cleared, Buffer.clear q)

section Looking

variable {q : WaitingQueue E} {ask : Ask E} {expired : Bool} {looked : Looked E}

theorem Refused.outcome? {r : Returned E} (refused : Refused q ask expired r) :
    ask.outcome? q = some (r, q) := by
  cases refused with
  | timeout full => rw [Ask.outcome?, WaitingQueue.offer_of_full full]; rfl
  | full full => rw [Ask.outcome?, WaitingQueue.offer_of_full full]; rfl
  | nothingCame empty => rw [Ask.outcome?, poll_nil empty]; rfl
  | nothingThere empty => rw [Ask.outcome?, poll_nil empty]; rfl

theorem outcome?_insert {e : E} (inserts : ask.element? = some e) (room : q.isFull = false) :
    ask.outcome? q = some (.inserted e (.ok ()), q.append e) := by
  have accepted : q.offer e = (.ok (), q.append e) := by
    rw [WaitingQueue.offer, room]
    rfl
  cases ask with
  | put e | putWithin e | offer e =>
    obtain rfl := Option.some.inj inserts
    rw [Ask.outcome?, accepted]
    rfl
  | take | takeWithin | poll | clear => cases inserts

theorem outcome?_take {e : E} {rest : List E} (awaits : ask.awaits = some .notEmpty)
    (held : q.contents = e :: rest) :
    ask.outcome? q = some (.option (some e), { q with contents := rest }) := by
  cases ask with
  | take =>
    rw [Ask.outcome?, poll_cons held]
  | takeWithin =>
    rw [Ask.outcome?, poll_cons held]
    rfl
  | put | putWithin | offer | poll | clear => cases awaits

/-- A call that has looked and does not wait returns what an offer or a poll would. -/
theorem Sees.outcome? (sees : Sees q ask expired looked) {r : Returned E}
    (returns : looked.exit.result? = some r) : ask.outcome? q = some (r, looked.queue) := by
  cases sees with
  | rest => cases returns
  | refuse refused =>
    obtain rfl := Option.some.inj returns
    exact refused.outcome?
  | insert inserts room =>
    obtain rfl := Option.some.inj returns
    exact outcome?_insert inserts room
  | take awaits held =>
    obtain rfl := Option.some.inj returns
    exact outcome?_take awaits held
  | poll held =>
    obtain rfl := Option.some.inj returns
    rw [Ask.outcome?, poll_cons held]
    rfl
  | clear =>
    obtain rfl := Option.some.inj returns
    rfl

theorem Sees.of_wait (sees : Sees q ask expired looked) (waits : looked.exit = .wait) :
    looked.queue = q ∧
      ∃ c, ask.awaits = some c ∧ supply q c = 0 ∧ (ask.hasDeadline && expired) = false := by
  cases sees with
  | rest awaits lacks patient => exact ⟨rfl, _, awaits, lacks, patient⟩
  | refuse | insert | take | poll | clear => cases waits

theorem outcome?_none {c : Condition} (awaits : ask.awaits = some c) (lacks : supply q c = 0)
    (no_deadline : ask.hasDeadline = false) : ask.outcome? q = none := by
  cases ask with
  | put e =>
    cases awaits
    rw [Ask.outcome?, WaitingQueue.offer_of_full ((isFull_iff q).mpr lacks)]
    rfl
  | take =>
    cases awaits
    rw [Ask.outcome?, poll_nil ((contents_eq_nil_iff q).mpr lacks)]
  | putWithin | takeWithin => cases no_deadline
  | offer | poll | clear => cases awaits

end Looking

def Party.lock (i : Nat) : Party E → Option Nat
  | .signalling _ _ => some i
  | _ => none

theorem holder_of_wakeOne? {c : Condition} {j : Option Nat} (h : m.wakeOne? c j = some m') :
    m'.holder = m.holder := by
  cases j with
  | none =>
    obtain ⟨_, rfl⟩ := wakeOne?_none h
    rfl
  | some j =>
    obtain ⟨ask, _, _, rfl⟩ := wakeOne?_some h
    rfl

/-- Whoever notifies and has the lock gives it back. -/
theorem holder_of_notifyOne? {i : Nat} {j : Option Nat} {p : Party E}
    (here : m.parties[i]? = some p) (h : m.notifyOne? i j = some m') :
    m'.holder = if (p.lock i).isSome then none else m.holder := by
  rw [notifyOne?, here] at h
  cases p with
  | signalling c r =>
    obtain ⟨woken, _, rfl⟩ := Option.map_eq_some_iff.mp h
    rfl
  | owing all r =>
    cases all with
    | true => cases h
    | false =>
      obtain ⟨woken, wakes, rfl⟩ := Option.map_eq_some_iff.mp h
      have same : woken.holder = m.holder := holder_of_wakeOne? wakes
      exact same
  | idle | locking | waiting | woken => cases h

theorem exists_wakeOne? (m : WaitingMachine E) (c : Condition) :
    ∃ j m', m.wakeOne? c j = some m' := by
  by_cases anybody : (m.parties.any fun p => p.awaits? == some c) = true
  · obtain ⟨p, mem, awaits⟩ := List.any_eq_true.mp anybody
    obtain ⟨j, there⟩ := List.mem_iff_getElem?.mp mem
    refine ⟨some j, m.setParty j (p.notified c), ?_⟩
    rw [wakeOne?, there]
    exact if_pos (beq_iff_eq.mp awaits)
  · exact ⟨none, m, if_neg anybody⟩

/-- Whoever is about to return can notify whom it has to and return. -/
theorem exists_step?_of_result? {i : Nat} {p : Party E} {r : Returned E}
    (here : m.parties[i]? = some p) (result : p.result? = some r) :
    ∃ v m', m.step? v = some m' ∧ (v = .notifyAll i ∨ ∃ j, v = .notifyOne i j) := by
  cases p with
  | signalling c r =>
    obtain ⟨j, woken, wakes⟩ := exists_wakeOne? m c
    refine ⟨.notifyOne i j, { woken.finish i r with holder := none }, ?_, .inr ⟨j, rfl⟩⟩
    rw [step?, notifyOne?, here]
    exact congrArg (Option.map _) wakes
  | owing all r =>
    cases all with
    | true =>
      have step : m.step? (.notifyAll i) =
          some ({ m with parties := m.parties.map (Party.notified .notFull) }.finish i r) := by
        rw [step?, notifyAll?, here]
      exact ⟨.notifyAll i, _, step, .inl rfl⟩
    | false =>
      obtain ⟨j, woken, wakes⟩ := exists_wakeOne? m .notFull
      refine ⟨.notifyOne i j, woken.finish i r, ?_, .inr ⟨j, rfl⟩⟩
      rw [step?, notifyOne?, here]
      exact congrArg (Option.map _) wakes
  | idle | locking | waiting | woken => cases result

/-- Whoever is about to look can do so when nobody has the lock. -/
theorem exists_enter {i : Nat} {p : Party E} {ask : Ask E} {expired : Bool}
    (here : m.parties[i]? = some p) (looks : p.Looks ask expired) (free : m.holder = none) :
    ∃ m', m.step? (.enter i) = some m' := by
  cases looks with
  | first | again =>
    rw [step?, here]
    simp only [enter?, free]
    exact ⟨_, rfl⟩

def Event.party : Event E → Nat
  | .call i _ => i
  | .enter i => i
  | .notifyOne i _ => i
  | .notifyAll i => i
  | .expire i => i

def Event.beginsCall : Event E → Bool
  | .call _ _ => true
  | _ => false

/-- Where party `i` is, what the queue holds and what the calls have returned, with the lock at
party `i` or free. -/
structure Stands (i : Nat) (p : Party E) (q : WaitingQueue E) (returned : List (Nat × Returned E))
    (m : WaitingMachine E) : Prop where
  here : m.parties[i]? = some p
  holder : m.holder = p.lock i
  queue : m.queue = q
  returned : m.returned = returned

section Moving

variable {i : Nat} {p : Party E} {q : WaitingQueue E} {before : List (Nat × Returned E)}

theorem getElem?_set_here {old new : Party E} {parties : List (Party E)}
    (here : parties[i]? = some old) : (parties.set i new)[i]? = some new := by
  obtain ⟨lt, _⟩ := List.getElem?_eq_some_iff.mp here
  exact List.getElem?_set_self lt

/-- Every event moves its party. -/
theorem Move.ne (move : Move m v m') : m' ≠ m := by
  have moved : ∀ {old new : Party E} {m : WaitingMachine E}, m.parties[v.party]? = some old →
      m'.parties[v.party]? = some new → new ≠ old → m' ≠ m := by
    rintro old new m was now differs rfl
    exact differs (Option.some.inj (now.symm.trans was))
  cases move with
  | call here => exact moved here (getElem?_set_here here) nofun
  | enter here looks free sees =>
    refine moved here (getElem?_set_here here) ?_
    cases looks <;> cases sees <;> nofun
  | wake here notifies there awaits =>
    refine moved here (getElem?_set_here (notifies.apart here there)) ?_
    cases notifies <;> nofun
  | pass here notifies nobody =>
    refine moved here (getElem?_set_here here) ?_
    cases notifies <;> nofun
  | @wakeAll i r here =>
    have there : (m.parties.map (Party.notified .notFull))[i]? = some (.owing true r) := by
      rw [List.getElem?_map, here]
      rfl
    exact moved here (getElem?_set_here there) nofun
  | expire here hasDeadline => exact moved here (getElem?_set_here here) nofun

theorem changes_of_step? {may : WaitingMachine E → Event E → Prop} (step : m.step? v = some m')
    (allowed : may m v) : Changes step? may m m' :=
  ⟨v, allowed, step, (move_of_step? step).ne⟩

inductive Turn (m : WaitingMachine E) (i : Nat) : Party E → Event E → WaitingMachine E → Prop
  | call {ask : Ask E} : Turn m i .idle (.call i ask) (m.setParty i (.locking ask))
  | enter {p : Party E} {ask : Ask E} {expired : Bool} {m' : WaitingMachine E}
      (looks : p.Looks ask expired) : Turn m i p (.enter i) m'
  | finish {p : Party E} {r : Returned E} {v : Event E} {m' : WaitingMachine E}
      (result : p.result? = some r) : Turn m i p v m'
  | expire {ask : Ask E} (hasDeadline : ask.hasDeadline = true) :
      Turn m i (.waiting ask) (.expire i) (m.setParty i (.woken ask true))

theorem turn_of_step? (at_p : m.parties[i]? = some p) (own : v.party = i)
    (step : m.step? v = some m') : Turn m i p v m' := by
  subst own
  cases move_of_step? step with
  | call here =>
    obtain rfl := Option.some.inj (at_p.symm.trans here)
    exact .call
  | enter here looks free sees =>
    obtain rfl := Option.some.inj (at_p.symm.trans here)
    exact .enter looks
  | wake here notifies there awaits =>
    obtain rfl := Option.some.inj (at_p.symm.trans here)
    exact .finish notifies.result?
  | pass here notifies nobody =>
    obtain rfl := Option.some.inj (at_p.symm.trans here)
    exact .finish notifies.result?
  | wakeAll here =>
    obtain rfl := Option.some.inj (at_p.symm.trans here)
    exact .finish rfl
  | expire here hasDeadline =>
    obtain rfl := Option.some.inj (at_p.symm.trans here)
    exact .expire hasDeadline

/-- Whoever looks finds the lock free and does what it sees fit. -/
theorem enter_of_step? {ask : Ask E} {expired : Bool} (here : m.parties[i]? = some p)
    (looks : p.Looks ask expired) (step : m.step? (.enter i) = some m') :
    m.holder = none ∧ m' = { m.setParty i ((look m.queue expired ask).exit.party ask) with
      queue := (look m.queue expired ask).queue
      holder := (look m.queue expired ask).exit.holder i
      inserted := m.inserted ++ (look m.queue expired ask).inserted
      gone := m.gone ++ (look m.queue expired ask).gone
      returned := m.returned ++ (look m.queue expired ask).exit.returned i } := by
  have entered : m.enter? i ask expired = some m' := by
    rw [step?, here] at step
    cases looks <;> exact step
  rw [enter?] at entered
  cases free : m.holder with
  | some j =>
    rw [free] at entered
    cases entered
  | none =>
    simp only [free] at entered
    refine ⟨rfl, (Option.some.inj entered).symm.trans ?_⟩
    rw [leave_eq rfl]
    rfl

theorem Stands.expire {ask : Ask E} (h : Stands i (.waiting ask) q before m) :
    Stands i (.woken ask true) q before (m.setParty i (.woken ask true)) :=
  ⟨getElem?_set_here h.here, h.holder, h.queue, h.returned⟩

theorem Stands.enter {ask : Ask E} {expired : Bool} (h : Stands i p q before m)
    (looks : p.Looks ask expired) (step : m.step? (.enter i) = some m') :
    Stands i ((look q expired ask).exit.party ask) (look q expired ask).queue
      (before ++ (look q expired ask).exit.returned i) m' := by
  obtain ⟨-, rfl⟩ := enter_of_step? h.here looks step
  rw [h.queue, ← h.returned]
  refine ⟨getElem?_set_here h.here, ?_, rfl, rfl⟩
  cases (look q expired ask).exit <;> rfl

/-- Whoever is about to return does so with its next event, and then has no lock. -/
theorem finish_of_step? {r : Returned E} (at_p : m.parties[i]? = some p)
    (result : p.result? = some r) (own : v.party = i) (step : m.step? v = some m') :
    m'.parties[i]? = some .idle ∧ m'.holder = (if (p.lock i).isSome then none else m.holder) ∧
      m'.queue = m.queue ∧ m'.returned = m.returned ++ [(i, r)] := by
  subst own
  cases move_of_step? step with
  | call here =>
    obtain rfl := Option.some.inj (at_p.symm.trans here)
    cases result
  | enter here looks free sees =>
    obtain rfl := Option.some.inj (at_p.symm.trans here)
    rw [looks.result?] at result
    cases result
  | wake here notifies there awaits =>
    obtain rfl := Option.some.inj (at_p.symm.trans here)
    obtain rfl := Option.some.inj (notifies.result?.symm.trans result)
    exact ⟨getElem?_set_here (notifies.apart here there), holder_of_notifyOne? here step, rfl, rfl⟩
  | pass here notifies nobody =>
    obtain rfl := Option.some.inj (at_p.symm.trans here)
    obtain rfl := Option.some.inj (notifies.result?.symm.trans result)
    exact ⟨getElem?_set_here here, holder_of_notifyOne? here step, rfl, rfl⟩
  | @wakeAll i r' here =>
    obtain rfl := Option.some.inj (at_p.symm.trans here)
    obtain rfl := Option.some.inj result
    have there : (m.parties.map (Party.notified .notFull))[i]? = some (.owing true r') := by
      rw [List.getElem?_map, here]
      rfl
    exact ⟨getElem?_set_here there, rfl, rfl, rfl⟩
  | expire here hasDeadline =>
    obtain rfl := Option.some.inj (at_p.symm.trans here)
    cases result

theorem Stands.finish {r : Returned E} (h : Stands i p q before m) (result : p.result? = some r)
    (own : v.party = i) (step : m.step? v = some m') :
    Stands i .idle q (before ++ [(i, r)]) m' := by
  obtain ⟨here, holder, queue, returned⟩ := finish_of_step? h.here result own step
  refine ⟨here, ?_, queue.trans h.queue, ?_⟩
  · rw [holder, h.holder]
    cases p.lock i <;> rfl
  · rw [returned, h.returned]

end Moving

def Alone (i : Nat) (_ : WaitingMachine E) (v : Event E) : Prop :=
  v.party = i ∧ v.beginsCall = false

def CameTo (i : Nat) (ask : Ask E) (q : WaitingQueue E) (before : List (Nat × Returned E))
    (m : WaitingMachine E) : Prop :=
  match ask.outcome? q with
  | some (r, q') => Stands i .idle q' (before ++ [(i, r)]) m
  | none => Stands i (.waiting ask) q before m

inductive Place (i : Nat) (ask : Ask E) (q : WaitingQueue E) (before : List (Nat × Returned E)) :
    Nat → WaitingMachine E → Prop
  | locking {m : WaitingMachine E} (stands : Stands i (.locking ask) q before m) :
      Place i ask q before 4 m
  | waiting {m : WaitingMachine E} {c : Condition} (stands : Stands i (.waiting ask) q before m)
      (awaits : ask.awaits = some c) (lacks : supply q c = 0) : Place i ask q before 3 m
  | woken {m : WaitingMachine E} (stands : Stands i (.woken ask true) q before m)
      (hasDeadline : ask.hasDeadline = true) : Place i ask q before 2 m
  | notifying {m : WaitingMachine E} {p : Party E} {r : Returned E} {q' : WaitingQueue E}
      (stands : Stands i p q' before m) (result : p.result? = some r)
      (outcome : ask.outcome? q = some (r, q')) : Place i ask q before 1 m
  | returned {m : WaitingMachine E} {r : Returned E} {q' : WaitingQueue E}
      (stands : Stands i .idle q' (before ++ [(i, r)]) m)
      (outcome : ask.outcome? q = some (r, q')) : Place i ask q before 0 m

section Calling

variable {i : Nat} {ask : Ask E} {q : WaitingQueue E} {before : List (Nat × Returned E)}

theorem Place.of_sees {expired : Bool} {looked : Looked E} (sees : Sees q ask expired looked)
    (in_time : expired = true → ask.hasDeadline = true)
    (stands : Stands i (looked.exit.party ask) looked.queue (before ++ looked.exit.returned i) m) :
    ∃ k < if expired then 2 else 4, Place i ask q before k m := by
  have outcome {r : Returned E} (returns : looked.exit.result? = some r) :
      ask.outcome? q = some (r, looked.queue) := sees.outcome? returns
  cases exit : looked.exit with
  | wait =>
    -- Nobody whose deadline has passed goes back to wait.
    obtain ⟨same, c, awaits, lacks, patient⟩ := sees.of_wait exit
    have waiting : Stands i (.waiting ask) q before m := by
      simpa [exit, same, Exit.party, Exit.returned] using stands
    cases expired with
    | false => exact ⟨3, by decide, .waiting waiting awaits lacks⟩
    | true =>
      rw [in_time rfl] at patient
      cases patient
  | finish r =>
    rw [exit] at stands outcome
    exact ⟨0, by cases expired <;> decide, .returned stands (outcome rfl)⟩
  | signal c r =>
    rw [exit] at outcome
    have signalling : Stands i (.signalling c r) looked.queue before m := by
      simpa [exit, Exit.party, Exit.returned] using stands
    exact ⟨1, by cases expired <;> decide, .notifying signalling rfl (outcome rfl)⟩
  | owe all r =>
    rw [exit] at outcome
    have owing : Stands i (.owing all r) looked.queue before m := by
      simpa [exit, Exit.party, Exit.returned] using stands
    exact ⟨1, by cases expired <;> decide, .notifying owing rfl (outcome rfl)⟩

theorem Place.goesOn {n : Nat} (place : Place i ask q before n m)
    (change : Changes step? (Alone i) m m') : ∃ k < n, Place i ask q before k m' := by
  obtain ⟨v, ⟨own, goesOn⟩, step, -⟩ := change
  cases place with
  | locking stands =>
    cases turn_of_step? stands.here own step with
    | enter looks =>
      cases looks
      exact Place.of_sees (sees_look q ask false) nofun (stands.enter .first step)
    | finish result => cases result
  | waiting stands awaits lacks =>
    cases turn_of_step? stands.here own step with
    | enter looks => cases looks
    | finish result => cases result
    | expire hasDeadline => exact ⟨2, by decide, .woken stands.expire hasDeadline⟩
  | woken stands hasDeadline =>
    cases turn_of_step? stands.here own step with
    | enter looks =>
      cases looks
      exact Place.of_sees (sees_look q ask true) (fun _ => hasDeadline) (stands.enter .again step)
    | finish result => cases result
  | notifying stands result outcome =>
    exact ⟨0, Nat.one_pos, .returned (stands.finish result own step) outcome⟩
  | returned stands outcome =>
    cases turn_of_step? stands.here own step with
    | call => cases goesOn
    | enter looks => cases looks
    | finish result => cases result

theorem Place.rests {n : Nat} (place : Place i ask q before n m) :
    CameTo i ask q before m ∨ ∃ m', Changes step? (Alone i) m m' := by
  cases place with
  | locking stands =>
    obtain ⟨m', step⟩ := exists_enter stands.here .first stands.holder
    exact .inr ⟨m', changes_of_step? step ⟨rfl, rfl⟩⟩
  | waiting stands awaits lacks =>
    cases hasDeadline : ask.hasDeadline with
    | true =>
      have step : m.step? (.expire i) = some (m.setParty i (.woken ask true)) := by
        rw [step?, stands.here]
        exact if_pos hasDeadline
      exact .inr ⟨_, changes_of_step? step ⟨rfl, rfl⟩⟩
    | false =>
      left
      rw [CameTo, outcome?_none awaits lacks hasDeadline]
      exact stands
  | woken stands hasDeadline =>
    obtain ⟨m', step⟩ := exists_enter stands.here .again stands.holder
    exact .inr ⟨m', changes_of_step? step ⟨rfl, rfl⟩⟩
  | notifying stands result outcome =>
    obtain ⟨v, m', step, rfl | ⟨j, rfl⟩⟩ := exists_step?_of_result? stands.here result
    · exact .inr ⟨m', changes_of_step? step ⟨rfl, rfl⟩⟩
    · exact .inr ⟨m', changes_of_step? step ⟨rfl, rfl⟩⟩
  | returned stands outcome =>
    left
    rw [CameTo, outcome]
    exact stands

/-- A call that is alone comes to what an offer or a poll would, or waits without having changed
anything. -/
theorem ends_alone (begins : Stands i (.locking ask) q before m) :
    Ends step? (Alone i) (CameTo i ask q before) m :=
  Schedule.ends_of_places (fun _ _ _ => Place.goesOn) (fun _ _ => Place.rests) (.locking begins)

end Calling

end QueueSupply.WaitingMachine
