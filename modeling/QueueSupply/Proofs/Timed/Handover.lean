import QueueSupply.Proofs.Timed.Waiting

set_option autoImplicit false

/-!
Two calls on the waiting queue of which the one waits for what the other brings about. Party 0 makes
the call that has to wait, party 1 the other one. Wherever the other call comes in, before the first
look, while the call waits or after it has been woken, both return what they would have returned had
the other call been made first and the waiting one after it.
-/

namespace QueueSupply.WaitingMachine

open Schedule (Changes Ends)

variable {E : Type} {m m' : WaitingMachine E} {v : Event E}

/-- The call `own` has to wait for `c` at the queue `before`. The call `other` makes it `between` of
it, returns `r` and says that there is `c` now; then `own` makes it `after` and returns `s`. -/
structure Handover (own other : Ask E) (c : Condition) (before between after : WaitingQueue E)
    (r s : Returned E) : Prop where
  awaits : own.awaits = some c
  waits : look before false own = unchanged before .wait
  otherQueue : (look before false other).queue = between
  otherExit : (look before false other).exit = .signal c r ∨
    c = .notFull ∧ ∃ all, (look before false other).exit = .owe all r
  ownQueue : (look between false own).queue = after
  ownExit : ∃ d, (look between false own).exit = .signal d s

structure Scene (parties : List (Party E)) (holder : Option Nat) (q : WaitingQueue E)
    (returned : List (Nat × Returned E)) (m : WaitingMachine E) : Prop where
  parties : m.parties = parties
  holder : m.holder = holder
  queue : m.queue = q
  returned : m.returned = returned

/-- Party 0 makes the one call and party 1 the other, each once. No deadline passes meanwhile. -/
def OnceEach (own other : Ask E) (m : WaitingMachine E) : Event E → Prop
  | .call i ask =>
    i ∉ m.returned.map Prod.fst ∧ (i = 0 ∧ ask = own ∨ i = 1 ∧ ask = other)
  | .expire _ => False
  | _ => True

def BothReturned (q : WaitingQueue E) (r s : Returned E) (m : WaitingMachine E) : Prop :=
  ∃ returned, Scene [.idle, .idle] none q returned m ∧ returned.Perm [(1, r), (0, s)]

inductive Party.Tells (c : Condition) (r : Returned E) : Party E → Prop
  | inside : Tells c r (.signalling c r)
  | outside {all : Bool} (room : c = .notFull) : Tells c r (.owing all r)

section Scenes

variable {a b : Party E} {parties : List (Party E)} {holder : Option Nat} {q : WaitingQueue E}
  {c : Condition} {returned : List (Nat × Returned E)} {r : Returned E}

theorem Scene.here (h : Scene [a, b] holder q returned m) :
    m.parties[0]? = some a ∧ m.parties[1]? = some b := by
  rw [h.parties]
  exact ⟨rfl, rfl⟩

theorem Scene.party (h : Scene [a, b] holder q returned m) (step : m.step? v = some m') :
    v.party = 0 ∨ v.party = 1 := by
  have here : ∃ p, m.parties[v.party]? = some p := by
    cases move_of_step? step <;> exact ⟨_, by assumption⟩
  obtain ⟨p, here⟩ := here
  obtain ⟨lt, _⟩ := List.getElem?_eq_some_iff.mp here
  rw [h.parties] at lt
  have : v.party < 2 := lt
  omega

theorem notified_of_not_waiting {p : Party E} (other : p.awaits? ≠ some c) : p.notified c = p := by
  cases p with
  | waiting ask => exact if_neg other
  | idle | locking | woken | signalling | owing => rfl

theorem Party.Tells.result? {p : Party E} (tells : p.Tells c r) : p.result? = some r := by
  cases tells <;> rfl

theorem Party.Tells.unique {p : Party E} {d : Condition} {s : Returned E} (tells : p.Tells c r)
    (notifies : p.Notifies d s) : c = d ∧ r = s := by
  cases tells with
  | inside =>
    cases notifies
    exact ⟨rfl, rfl⟩
  | outside room =>
    cases notifies
    exact ⟨room, rfl⟩

theorem set_woken {i j : Nat} {p : Party E} {ask : Ask E}
    (two : parties.length = 2) (apart : i ≠ j) (at_p : parties[i]? = some p)
    (there : parties[j]? = some (.waiting ask)) (awaits : ask.awaits = some c) :
    (parties.set j (.woken ask false)).set i .idle =
      (parties.map (Party.notified c)).set i .idle := by
  have woken : (Party.waiting ask).notified c = .woken ask false := if_pos awaits
  obtain ⟨first, _⟩ := List.getElem?_eq_some_iff.mp at_p
  obtain ⟨second, _⟩ := List.getElem?_eq_some_iff.mp there
  obtain ⟨x, y, rfl⟩ := List.length_eq_two.mp two
  obtain ⟨rfl, rfl⟩ | ⟨rfl, rfl⟩ : i = 0 ∧ j = 1 ∨ i = 1 ∧ j = 0 := by
    rw [two] at first second
    omega
  · obtain rfl := Option.some.inj there
    exact congrArg (fun w => [.idle, w]) woken.symm
  · obtain rfl := Option.some.inj there
    exact congrArg (fun w => [w, .idle]) woken.symm

/-- Of two parties the one returns and the other has been told, whether it waits or not. -/
theorem parties_of_finish {i : Nat} {p : Party E} (two : m.parties.length = 2)
    (at_p : m.parties[i]? = some p) (tells : p.Tells c r) (own : v.party = i)
    (step : m.step? v = some m') :
    m'.parties = (m.parties.map (Party.notified c)).set i .idle := by
  subst own
  cases move_of_step? step with
  | call here =>
    obtain rfl := Option.some.inj (at_p.symm.trans here)
    cases tells
  | enter here looks free sees =>
    obtain rfl := Option.some.inj (at_p.symm.trans here)
    cases tells <;> cases looks
  | wake here notifies there awaits =>
    obtain rfl := Option.some.inj (at_p.symm.trans here)
    obtain ⟨rfl, rfl⟩ := tells.unique notifies
    refine set_woken two ?_ here there awaits
    rintro rfl
    obtain rfl := Option.some.inj (here.symm.trans there)
    cases tells
  | pass here notifies nobody =>
    obtain rfl := Option.some.inj (at_p.symm.trans here)
    obtain ⟨rfl, rfl⟩ := tells.unique notifies
    have same : m.parties.map (Party.notified c) = m.parties :=
      (List.map_congr_left fun p mem => notified_of_not_waiting (nobody p mem)).trans
        (List.map_id _)
    rw [same]
    rfl
  | wakeAll here =>
    obtain rfl := Option.some.inj (at_p.symm.trans here)
    cases tells with
    | outside room =>
      rw [room]
      rfl
  | expire here hasDeadline =>
    obtain rfl := Option.some.inj (at_p.symm.trans here)
    cases tells

theorem Scene.call (h : Scene parties holder q returned m) (i : Nat) (ask : Ask E) :
    Scene (parties.set i (.locking ask)) holder q returned (m.setParty i (.locking ask)) :=
  ⟨by rw [setParty, h.parties], h.holder, h.queue, h.returned⟩

theorem Scene.enter {i : Nat} {p : Party E} {ask : Ask E} (h : Scene parties holder q returned m)
    (here : m.parties[i]? = some p) (looks : p.Looks ask false)
    (step : m.step? (.enter i) = some m') :
    holder = none ∧ Scene (parties.set i ((look q false ask).exit.party ask))
      ((look q false ask).exit.holder i) (look q false ask).queue
      (returned ++ (look q false ask).exit.returned i) m' := by
  obtain ⟨free, rfl⟩ := enter_of_step? here looks step
  rw [← h.parties, ← h.holder, ← h.queue, ← h.returned]
  exact ⟨free, rfl, rfl, rfl, rfl⟩

theorem Scene.finish {i : Nat} {p : Party E} (h : Scene parties holder q returned m)
    (two : parties.length = 2) (here : m.parties[i]? = some p) (tells : p.Tells c r)
    (own : v.party = i) (step : m.step? v = some m') :
    Scene ((parties.map (Party.notified c)).set i .idle)
      (if (p.lock i).isSome then none else holder) q (returned ++ [(i, r)]) m' := by
  have set := parties_of_finish (h.parties ▸ two) here tells own step
  obtain ⟨-, unlocked, queue, log⟩ := finish_of_step? here tells.result? own step
  rw [h.parties] at set
  rw [h.holder] at unlocked
  exact ⟨set, unlocked, queue.trans h.queue, h.returned ▸ log⟩

end Scenes

inductive Begins (ask : Ask E) : Nat → Party E → Prop
  | unbegun : Begins ask 2 .idle
  | locking : Begins ask 1 (.locking ask)

/-- A party that has not found yet what it waits for. -/
inductive Early (ask : Ask E) : Nat → Party E → Prop
  | begins {n : Nat} {p : Party E} (begins : Begins ask n p) : Early ask n p
  | waiting : Early ask 0 (.waiting ask)

/-- A party that will find at its next look what it waits for. -/
inductive Ready (ask : Ask E) : Nat → Party E → Prop
  | begins {n : Nat} {p : Party E} (begins : Begins ask n p) : Ready ask n p
  | woken : Ready ask 1 (.woken ask false)

/-- Where the two calls can be. The number falls with every event, as no call ever goes back. -/
inductive Meeting (own other : Ask E) (c : Condition) (before between after : WaitingQueue E)
    (r s : Returned E) : Nat → WaitingMachine E → Prop
  /-- The other call has not looked yet. -/
  | apart {m : WaitingMachine E} {a b : Party E} {j k : Nat} (early : Early own j a)
      (begins : Begins other k b) (scene : Scene [a, b] none before [] m) :
      Meeting own other c before between after r s (j + k + 8) m
  /-- The other call has looked and has still to tell. -/
  | told {m : WaitingMachine E} {a b : Party E} {j : Nat} (early : Early own j a)
      (tells : b.Tells c r) (scene : Scene [a, b] (b.lock 1) between [] m) :
      Meeting own other c before between after r s (j + 5) m
  | ready {m : WaitingMachine E} {a : Party E} {j : Nat} (ready : Ready own j a)
      (scene : Scene [a, .idle] none between [(1, r)] m) :
      Meeting own other c before between after r s (j + 2) m
  /-- The call has looked again before the other one could tell it to. -/
  | crossed {m : WaitingMachine E} {b : Party E} {d : Condition} (tells : b.Tells c r)
      (free : b.lock 1 = none) (scene : Scene [.signalling d s, b] (some 0) after [] m) :
      Meeting own other c before between after r s 2 m
  | otherLast {m : WaitingMachine E} {b : Party E} (tells : b.Tells c r) (free : b.lock 1 = none)
      (scene : Scene [.idle, b] none after [(0, s)] m) :
      Meeting own other c before between after r s 1 m
  | ownLast {m : WaitingMachine E} {d : Condition}
      (scene : Scene [.signalling d s, .idle] (some 0) after [(1, r)] m) :
      Meeting own other c before between after r s 1 m
  | met {m : WaitingMachine E} (returned : BothReturned after r s m) :
      Meeting own other c before between after r s 0 m

section Meetings

variable {own other : Ask E} {c d : Condition} {before between after : WaitingQueue E}
  {r s : Returned E} {a b : Party E} {j k : Nat}

theorem Begins.notified {ask : Ask E} {n : Nat} {p : Party E} (h : Begins ask n p) :
    p.notified c = p := by
  cases h <;> rfl

theorem Early.ready (h : Early own j a) (awaits : own.awaits = some c) :
    ∃ k ≤ 2, Ready own k (a.notified c) := by
  cases h with
  | begins begins =>
    rw [begins.notified]
    refine ⟨j, ?_, .begins begins⟩
    cases begins <;> decide
  | waiting =>
    have woken : (Party.waiting own).notified c = .woken own false := if_pos awaits
    rw [woken]
    exact ⟨1, by decide, .woken⟩

theorem OnceEach.asks_own (may : OnceEach own other m v) :
    ∀ ask, v = .call 0 ask → ask = own := by
  rintro ask rfl
  exact may.2.elim And.right fun wrong => absurd wrong.1 Nat.zero_ne_one

theorem OnceEach.asks_other (may : OnceEach own other m v) :
    ∀ ask, v = .call 1 ask → ask = other := by
  rintro ask rfl
  exact may.2.elim (fun wrong => absurd wrong.1 Nat.one_ne_zero) And.right

/-- The next event of a party that has not made its first look begins the call or is that look. -/
theorem Begins.turn {i n : Nat} {ask : Ask E} {p : Party E} (begins : Begins ask n p)
    (here : m.parties[i]? = some p) (asks : ∀ ask', v = .call i ask' → ask' = ask)
    (party : v.party = i) (step : m.step? v = some m') :
    n = 2 ∧ m' = m.setParty i (.locking ask) ∨ n = 1 ∧ p.Looks ask false ∧ v = .enter i := by
  cases begins with
  | unbegun =>
    cases turn_of_step? here party step with
    | call =>
      obtain rfl := asks _ rfl
      exact .inl ⟨rfl, rfl⟩
    | enter looks => cases looks
    | finish result => cases result
  | locking =>
    cases turn_of_step? here party step with
    | enter => exact .inr ⟨rfl, .first, rfl⟩
    | finish result => cases result

theorem Early.turn (early : Early own j a) (here : m.parties[0]? = some a)
    (may : OnceEach own other m v) (party : v.party = 0) (step : m.step? v = some m') :
    j = 2 ∧ m' = m.setParty 0 (.locking own) ∨ j = 1 ∧ a.Looks own false ∧ v = .enter 0 := by
  cases early with
  | begins begins => exact begins.turn here may.asks_own party step
  | waiting =>
    cases turn_of_step? here party step with
    | enter looks => cases looks
    | finish result => cases result
    | expire => cases may

theorem Ready.turn (ready : Ready own j a) (here : m.parties[0]? = some a)
    (may : OnceEach own other m v) (party : v.party = 0) (step : m.step? v = some m') :
    j = 2 ∧ m' = m.setParty 0 (.locking own) ∨ j = 1 ∧ a.Looks own false ∧ v = .enter 0 := by
  cases ready with
  | begins begins => exact begins.turn here may.asks_own party step
  | woken =>
    cases turn_of_step? here party step with
    | enter => exact .inr ⟨rfl, .again, rfl⟩
    | finish result => cases result

/-- A party that has returned makes no other call. -/
theorem OnceEach.not_again {i : Nat} (may : OnceEach own other m v) (party : v.party = i)
    (idle : m.parties[i]? = some .idle) (returned : i ∈ m.returned.map Prod.fst)
    (step : m.step? v = some m') : False := by
  cases turn_of_step? idle party step with
  | call => exact may.1 returned
  | enter looks => cases looks
  | finish result => cases result

theorem Handover.tells (h : Handover own other c before between after r s) :
    ((look before false other).exit.party other).Tells c r ∧
      (look before false other).exit.holder 1 =
        ((look before false other).exit.party other).lock 1 ∧
      (look before false other).exit.returned 1 = [] := by
  obtain exit | ⟨room, all, exit⟩ := h.otherExit
  · rw [exit]
    exact ⟨.inside, rfl, rfl⟩
  · rw [exit]
    exact ⟨.outside room, rfl, rfl⟩

theorem Meeting.goesOn_apart (h : Handover own other c before between after r s)
    (early : Early own j a) (begins : Begins other k b) (scene : Scene [a, b] none before [] m)
    (may : OnceEach own other m v) (step : m.step? v = some m') :
    ∃ n < j + k + 8, Meeting own other c before between after r s n m' := by
  obtain party | party := scene.party step
  · obtain ⟨rfl, rfl⟩ | ⟨rfl, looks, rfl⟩ := early.turn scene.here.1 may party step
    · exact ⟨1 + k + 8, by omega, .apart (.begins .locking) begins (scene.call 0 own)⟩
    · have waiting := (scene.enter scene.here.1 looks step).2
      rw [h.waits] at waiting
      exact ⟨0 + k + 8, by omega, .apart .waiting begins waiting⟩
  · obtain ⟨rfl, rfl⟩ | ⟨rfl, looks, rfl⟩ := begins.turn scene.here.2 may.asks_other party step
    · exact ⟨j + 1 + 8, by omega, .apart early .locking (scene.call 1 other)⟩
    · have told := (scene.enter scene.here.2 looks step).2
      obtain ⟨tells, holder, returned⟩ := h.tells
      rw [h.otherQueue, holder, returned] at told
      exact ⟨j + 5, by omega, .told early tells told⟩

theorem Meeting.goesOn_told (h : Handover own other c before between after r s)
    (early : Early own j a) (tells : b.Tells c r) (scene : Scene [a, b] (b.lock 1) between [] m)
    (may : OnceEach own other m v) (step : m.step? v = some m') :
    ∃ n < j + 5, Meeting own other c before between after r s n m' := by
  obtain party | party := scene.party step
  · obtain ⟨rfl, rfl⟩ | ⟨rfl, looks, rfl⟩ := early.turn scene.here.1 may party step
    · exact ⟨1 + 5, by omega, .told (.begins .locking) tells (scene.call 0 own)⟩
    -- The lock is free only if the other call tells after it has given it back.
    · obtain ⟨free, signalling⟩ := scene.enter scene.here.1 looks step
      obtain ⟨d, exit⟩ := h.ownExit
      rw [exit, h.ownQueue] at signalling
      exact ⟨2, by omega, .crossed tells free signalling⟩
  -- Told while it waits or before it has looked, the call finds at its next look what it needs.
  · obtain ⟨k, le, ready⟩ := early.ready h.awaits
    have returned := scene.finish rfl scene.here.2 tells party step
    have free : (if (b.lock 1).isSome then none else b.lock 1) = none := by
      cases b.lock 1 <;> rfl
    rw [free] at returned
    exact ⟨k + 2, by omega, .ready ready returned⟩

theorem Meeting.goesOn_ready (h : Handover own other c before between after r s)
    (ready : Ready own j a) (scene : Scene [a, .idle] none between [(1, r)] m)
    (may : OnceEach own other m v) (step : m.step? v = some m') :
    ∃ n < j + 2, Meeting own other c before between after r s n m' := by
  obtain party | party := scene.party step
  · obtain ⟨rfl, rfl⟩ | ⟨rfl, looks, rfl⟩ := ready.turn scene.here.1 may party step
    · exact ⟨1 + 2, by omega, .ready (.begins .locking) (scene.call 0 own)⟩
    · obtain ⟨-, signalling⟩ := scene.enter scene.here.1 looks step
      obtain ⟨d, exit⟩ := h.ownExit
      rw [exit, h.ownQueue] at signalling
      exact ⟨1, by omega, .ownLast signalling⟩
  · refine (may.not_again party scene.here.2 ?_ step).elim
    rw [scene.returned]
    exact List.mem_cons_self

theorem Meeting.goesOn_crossed (tells : b.Tells c r) (free : b.lock 1 = none)
    (scene : Scene [.signalling d s, b] (some 0) after [] m) (step : m.step? v = some m') :
    ∃ n < 2, Meeting own other c before between after r s n m' := by
  obtain party | party := scene.party step
  · have returned : Scene [.idle, b.notified d] none after [(0, s)] m' :=
      scene.finish rfl scene.here.1 .inside party step
    have same : b.notified d = b := by cases tells <;> rfl
    rw [same] at returned
    exact ⟨1, Nat.one_lt_two, .otherLast tells free returned⟩
  · have returned := scene.finish rfl scene.here.2 tells party step
    rw [free] at returned
    exact ⟨1, Nat.one_lt_two, .ownLast returned⟩

theorem Meeting.goesOn {n : Nat} (h : Handover own other c before between after r s)
    (meeting : Meeting own other c before between after r s n m)
    (change : Changes step? (OnceEach own other) m m') :
    ∃ k < n, Meeting own other c before between after r s k m' := by
  obtain ⟨v, may, step, -⟩ := change
  cases meeting with
  | apart early begins scene => exact goesOn_apart h early begins scene may step
  | told early tells scene => exact goesOn_told h early tells scene may step
  | ready ready scene => exact goesOn_ready h ready scene may step
  | crossed tells free scene => exact goesOn_crossed tells free scene step
  | otherLast tells free scene =>
    obtain party | party := scene.party step
    · refine (may.not_again party scene.here.1 ?_ step).elim
      rw [scene.returned]
      exact List.mem_cons_self
    · have returned := scene.finish rfl scene.here.2 tells party step
      rw [free] at returned
      exact ⟨0, Nat.one_pos, .met ⟨_, returned, List.Perm.swap _ _ _⟩⟩
  | ownLast scene =>
    obtain party | party := scene.party step
    · have returned := scene.finish rfl scene.here.1 .inside party step
      exact ⟨0, Nat.one_pos, .met ⟨_, returned, List.Perm.refl _⟩⟩
    · refine (may.not_again party scene.here.2 ?_ step).elim
      rw [scene.returned]
      exact List.mem_cons_self
  | met returned =>
    obtain ⟨log, scene, perm⟩ := returned
    have logged := perm.map Prod.fst
    obtain party | party := scene.party step
    · refine (may.not_again party scene.here.1 ?_ step).elim
      rw [scene.returned]
      exact logged.mem_iff.mpr (List.mem_cons_of_mem _ List.mem_cons_self)
    · refine (may.not_again party scene.here.2 ?_ step).elim
      rw [scene.returned]
      exact logged.mem_iff.mpr List.mem_cons_self

theorem Begins.exists_change (begins : Begins other k b) (scene : Scene [a, b] none before [] m) :
    ∃ m', Changes step? (OnceEach own other) m m' := by
  cases begins with
  | unbegun =>
    have step : m.step? (.call 1 other) = some (m.setParty 1 (.locking other)) := by
      rw [step?, scene.here.2]
    refine ⟨_, changes_of_step? step ⟨?_, .inr ⟨rfl, rfl⟩⟩⟩
    rw [scene.returned]
    exact List.not_mem_nil
  | locking =>
    obtain ⟨m', step⟩ := exists_enter scene.here.2 .first scene.holder
    exact ⟨m', changes_of_step? step trivial⟩

theorem Ready.exists_change {log : List (Nat × Returned E)} (ready : Ready own j a)
    (scene : Scene [a, b] none between log m) (fresh : 0 ∉ log.map Prod.fst) :
    ∃ m', Changes step? (OnceEach own other) m m' := by
  cases ready with
  | begins begins =>
    cases begins with
    | unbegun =>
      have step : m.step? (.call 0 own) = some (m.setParty 0 (.locking own)) := by
        rw [step?, scene.here.1]
      exact ⟨_, changes_of_step? step ⟨scene.returned ▸ fresh, .inl ⟨rfl, rfl⟩⟩⟩
    | locking =>
      obtain ⟨m', step⟩ := exists_enter scene.here.1 .first scene.holder
      exact ⟨m', changes_of_step? step trivial⟩
  | woken =>
    obtain ⟨m', step⟩ := exists_enter scene.here.1 .again scene.holder
    exact ⟨m', changes_of_step? step trivial⟩

theorem Party.Tells.exists_change {i : Nat} {p : Party E} (tells : p.Tells c r)
    (here : m.parties[i]? = some p) : ∃ m', Changes step? (OnceEach own other) m m' := by
  obtain ⟨v, m', step, rfl | ⟨j, rfl⟩⟩ := exists_step?_of_result? here tells.result?
  · exact ⟨m', changes_of_step? step trivial⟩
  · exact ⟨m', changes_of_step? step trivial⟩

theorem Meeting.rests {n : Nat} (meeting : Meeting own other c before between after r s n m) :
    BothReturned after r s m ∨ ∃ m', Changes step? (OnceEach own other) m m' := by
  cases meeting with
  | apart early begins scene => exact .inr (begins.exists_change scene)
  | told early tells scene => exact .inr (tells.exists_change scene.here.2)
  | ready ready scene => exact .inr (ready.exists_change scene (by simp))
  | crossed tells free scene => exact .inr (tells.exists_change scene.here.2)
  | otherLast tells free scene => exact .inr (tells.exists_change scene.here.2)
  | ownLast scene => exact .inr (Party.Tells.exists_change .inside scene.here.1)
  | met returned => exact .inl returned

/-- Two calls of which the one waits for what the other brings about both return, in whatever order
their events come, as if the other one had been made first. -/
theorem ends_handover (h : Handover own other c before between after r s) :
    Ends step? (OnceEach own other) (BothReturned after r s) (start before 2) :=
  Schedule.ends_of_places (fun _ _ _ => Meeting.goesOn h) (fun _ _ => Meeting.rests)
    (.apart (.begins .unbegun) .unbegun ⟨rfl, rfl, rfl, rfl⟩)

end Meetings

end QueueSupply.WaitingMachine
