import QueueSupply.Concurrent.WaitingMachine

set_option autoImplicit false

namespace QueueSupply.WaitingMachine

variable {E : Type}

/-- How much there is of what is waited for: room, or elements. -/
def supply (q : WaitingQueue E) : Condition → Nat
  | .notFull => q.capacity - q.contents.length
  | .notEmpty => q.contents.length

theorem isFull_iff (q : WaitingQueue E) : q.isFull = true ↔ supply q .notFull = 0 := by
  rw [WaitingQueue.isFull, decide_eq_true_iff, supply, Nat.sub_eq_zero_iff_le]

theorem contents_eq_nil_iff (q : WaitingQueue E) : q.contents = [] ↔ supply q .notEmpty = 0 :=
  List.length_eq_zero_iff.symm

def Ask.element? : Ask E → Option E
  | .put e => some e
  | .putWithin e => some e
  | .offer e => some e
  | _ => none

inductive Refused (q : WaitingQueue E) : Ask E → Bool → Returned E → Prop
  | timeout {e : E} (full : q.isFull = true) :
      Refused q (.putWithin e) true (.inserted e (.error (.timeout e)))
  | full {e : E} {expired : Bool} (full : q.isFull = true) :
      Refused q (.offer e) expired (.inserted e (.error (.full e)))
  | nothingCame (empty : q.contents = []) : Refused q .takeWithin true (.option none)
  | nothingThere {expired : Bool} (empty : q.contents = []) :
      Refused q .poll expired (.option none)

inductive Sees (q : WaitingQueue E) : Ask E → Bool → Looked E → Prop
  | rest {ask : Ask E} {expired : Bool} {c : Condition} (awaits : ask.awaits = some c)
      (lacks : supply q c = 0) (patient : (ask.hasDeadline && expired) = false) :
      Sees q ask expired (unchanged q .wait)
  | refuse {ask : Ask E} {expired : Bool} {r : Returned E} (refused : Refused q ask expired r) :
      Sees q ask expired (unchanged q (.finish r))
  | insert {ask : Ask E} {expired : Bool} {e : E} (inserts : ask.element? = some e)
      (room : q.isFull = false) : Sees q ask expired (insert q e)
  | take {ask : Ask E} {expired : Bool} {e : E} {rest : List E}
      (awaits : ask.awaits = some .notEmpty) (held : q.contents = e :: rest) :
      Sees q ask expired
        ⟨.signal .notFull (.option (some e)), { q with contents := rest }, [], [(e, false)]⟩
  | poll {expired : Bool} {e : E} {rest : List E} (held : q.contents = e :: rest) :
      Sees q .poll expired
        ⟨.owe false (.option (some e)), { q with contents := rest }, [], [(e, false)]⟩
  | clear {expired : Bool} :
      Sees q .clear expired
        ⟨.owe true .cleared, { q with contents := [] }, [], q.contents.map fun e => (e, true)⟩

theorem poll_nil {q : WaitingQueue E} (held : q.contents = []) : q.poll = (none, q) := by
  obtain ⟨capacity, contents⟩ := q
  obtain rfl : contents = [] := held
  rfl

theorem poll_cons {q : WaitingQueue E} {e : E} {rest : List E} (held : q.contents = e :: rest) :
    q.poll = (some e, { q with contents := rest }) := by
  rw [WaitingQueue.poll, held]
  rfl

theorem sees_put (q : WaitingQueue E) (e : E) (expired : Bool) :
    Sees q (.put e) expired (look q expired (.put e)) := by
  rw [look]
  cases full : q.isFull with
  | true => exact .rest rfl ((isFull_iff q).mp full) rfl
  | false => exact .insert rfl full

theorem sees_putWithin (q : WaitingQueue E) (e : E) (expired : Bool) :
    Sees q (.putWithin e) expired (look q expired (.putWithin e)) := by
  rw [look]
  cases full : q.isFull with
  | true =>
    cases expired with
    | true => exact .refuse (.timeout full)
    | false => exact .rest rfl ((isFull_iff q).mp full) rfl
  | false => exact .insert rfl full

theorem sees_take (q : WaitingQueue E) (expired : Bool) :
    Sees q .take expired (look q expired .take) := by
  rw [look]
  cases held : q.contents with
  | nil =>
    rw [poll_nil held]
    exact .rest rfl ((contents_eq_nil_iff q).mp held) rfl
  | cons e rest =>
    rw [poll_cons held]
    exact .take rfl held

theorem sees_takeWithin (q : WaitingQueue E) (expired : Bool) :
    Sees q .takeWithin expired (look q expired .takeWithin) := by
  rw [look]
  cases held : q.contents with
  | nil =>
    rw [poll_nil held]
    cases expired with
    | true => exact .refuse (.nothingCame held)
    | false => exact .rest rfl ((contents_eq_nil_iff q).mp held) rfl
  | cons e rest =>
    rw [poll_cons held]
    exact .take rfl held

theorem sees_look (q : WaitingQueue E) (ask : Ask E) (expired : Bool) :
    Sees q ask expired (look q expired ask) := by
  cases ask with
  | put e => exact sees_put q e expired
  | putWithin e => exact sees_putWithin q e expired
  | take => exact sees_take q expired
  | takeWithin => exact sees_takeWithin q expired
  | offer e =>
    rw [look]
    cases full : q.isFull with
    | true => exact .refuse (.full full)
    | false => exact .insert rfl full
  | poll =>
    rw [look]
    cases held : q.contents with
    | nil =>
      rw [poll_nil held]
      exact .refuse (.nothingThere held)
    | cons e rest =>
      rw [poll_cons held]
      exact .poll held
  | clear => exact .clear

def Exit.party (ask : Ask E) : Exit E → Party E
  | .wait => .waiting ask
  | .finish _ => .idle
  | .signal c r => .signalling c r
  | .owe all r => .owing all r

def Exit.returned (i : Nat) : Exit E → List (Nat × Returned E)
  | .finish r => [(i, r)]
  | _ => []

def Exit.holder (i : Nat) : Exit E → Option Nat
  | .signal _ _ => some i
  | _ => none

/-- A party that is about to look, its call, and whether its deadline has passed meanwhile. -/
inductive Party.Looks : Party E → Ask E → Bool → Prop
  | first {ask : Ask E} : Looks (.locking ask) ask false
  | again {ask : Ask E} {expired : Bool} : Looks (.woken ask expired) ask expired

inductive Party.Notifies : Party E → Condition → Returned E → Prop
  | inside {c : Condition} {r : Returned E} : Notifies (.signalling c r) c r
  | outside {r : Returned E} : Notifies (.owing false r) .notFull r

/-- The party that is woken is not the one that notifies. -/
theorem Party.Notifies.apart {p new : Party E} {c : Condition} {r : Returned E} {i j : Nat}
    {ask : Ask E} {m : WaitingMachine E} (notifies : p.Notifies c r) (here : m.parties[i]? = some p)
    (there : m.parties[j]? = some (.waiting ask)) : (m.parties.set j new)[i]? = some p := by
  rw [List.getElem?_set_ne, here]
  rintro rfl
  rw [there] at here
  obtain rfl := Option.some.inj here
  cases notifies

inductive Move (m : WaitingMachine E) : Event E → WaitingMachine E → Prop
  | call {i : Nat} {ask : Ask E} (here : m.parties[i]? = some .idle) :
      Move m (.call i ask) (m.setParty i (.locking ask))
  | enter {i : Nat} {p : Party E} {ask : Ask E} {expired : Bool} {looked : Looked E}
      (here : m.parties[i]? = some p) (looks : p.Looks ask expired) (free : m.holder = none)
      (sees : Sees m.queue ask expired looked) :
      Move m (.enter i) { m.setParty i (looked.exit.party ask) with
        queue := looked.queue
        holder := looked.exit.holder i
        inserted := m.inserted ++ looked.inserted
        gone := m.gone ++ looked.gone
        returned := m.returned ++ looked.exit.returned i }
  | wake {i j : Nat} {p : Party E} {c : Condition} {r : Returned E} {ask : Ask E}
      {holder : Option Nat} (here : m.parties[i]? = some p) (notifies : p.Notifies c r)
      (there : m.parties[j]? = some (.waiting ask)) (awaits : ask.awaits = some c) :
      Move m (.notifyOne i (some j))
        { (m.setParty j (.woken ask false)).finish i r with holder := holder }
  | pass {i : Nat} {p : Party E} {c : Condition} {r : Returned E} {holder : Option Nat}
      (here : m.parties[i]? = some p) (notifies : p.Notifies c r)
      (nobody : ∀ p ∈ m.parties, p.awaits? ≠ some c) :
      Move m (.notifyOne i none) { m.finish i r with holder := holder }
  | wakeAll {i : Nat} {r : Returned E} (here : m.parties[i]? = some (.owing true r)) :
      Move m (.notifyAll i)
        ({ m with parties := m.parties.map (Party.notified .notFull) }.finish i r)
  | expire {i : Nat} {ask : Ask E} (here : m.parties[i]? = some (.waiting ask))
      (hasDeadline : ask.hasDeadline = true) :
      Move m (.expire i) (m.setParty i (.woken ask true))

theorem leave_eq {m : WaitingMachine E} (free : m.holder = none) (i : Nat) (ask : Ask E)
    (exit : Exit E) : leave m i ask exit = { m.setParty i (exit.party ask) with
      holder := exit.holder i
      returned := m.returned ++ exit.returned i } := by
  cases exit with
  | wait | owe => simp [leave, setParty, Exit.party, Exit.returned, Exit.holder, free]
  | finish r => simp [leave, finish, setParty, Exit.party, Exit.returned, Exit.holder, free]
  | signal c r => simp [leave, setParty, Exit.party, Exit.returned, Exit.holder]

theorem move_of_enter? {m m' : WaitingMachine E} {i : Nat} {p : Party E} {ask : Ask E}
    {expired : Bool} (here : m.parties[i]? = some p) (looks : p.Looks ask expired)
    (h : m.enter? i ask expired = some m') : Move m (.enter i) m' := by
  rw [enter?] at h
  cases free : m.holder with
  | some j =>
    simp only [free] at h
    cases h
  | none =>
    simp only [free] at h
    obtain rfl := Option.some.inj h
    rw [leave_eq rfl]
    exact .enter here looks free (sees_look m.queue ask expired)

theorem wakeOne?_some {m m' : WaitingMachine E} {c : Condition} {j : Nat}
    (h : m.wakeOne? c (some j) = some m') :
    ∃ ask, m.parties[j]? = some (.waiting ask) ∧ ask.awaits = some c ∧
      m' = m.setParty j (.woken ask false) := by
  rw [wakeOne?] at h
  cases there : m.parties[j]? with
  | none =>
    rw [there] at h
    cases h
  | some p =>
    simp only [there] at h
    by_cases awaits : p.awaits? = some c
    · rw [if_pos awaits] at h
      obtain rfl := Option.some.inj h
      cases p with
      | waiting ask =>
        refine ⟨ask, rfl, awaits, ?_⟩
        have asked : ask.awaits = some c := awaits
        rw [Party.notified, if_pos asked]
      | idle | locking | woken | signalling | owing => cases awaits
    · rw [if_neg awaits] at h
      cases h

theorem wakeOne?_none {m m' : WaitingMachine E} {c : Condition} (h : m.wakeOne? c none = some m') :
    (∀ p ∈ m.parties, p.awaits? ≠ some c) ∧ m' = m := by
  rw [wakeOne?] at h
  by_cases anybody : (m.parties.any fun p => p.awaits? == some c) = true
  · rw [if_pos anybody] at h
    cases h
  · rw [if_neg anybody] at h
    refine ⟨?_, (Option.some.inj h).symm⟩
    intro p mem awaits
    exact anybody (List.any_eq_true.mpr ⟨p, mem, beq_iff_eq.mpr awaits⟩)

theorem move_of_wakeOne? {m m' : WaitingMachine E} {i : Nat} {j : Option Nat} {p : Party E}
    {c : Condition} {r : Returned E} (here : m.parties[i]? = some p) (notifies : p.Notifies c r)
    (h : m.wakeOne? c j = some m') (holder : Option Nat) :
    Move m (.notifyOne i j) { m'.finish i r with holder := holder } := by
  cases j with
  | none =>
    obtain ⟨nobody, rfl⟩ := wakeOne?_none h
    exact .pass here notifies nobody
  | some j =>
    obtain ⟨ask, there, awaits, rfl⟩ := wakeOne?_some h
    exact .wake here notifies there awaits

theorem move_of_notifyOne? {m m' : WaitingMachine E} {i : Nat} {j : Option Nat}
    (h : m.notifyOne? i j = some m') : Move m (.notifyOne i j) m' := by
  rw [notifyOne?] at h
  cases here : m.parties[i]? with
  | none =>
    rw [here] at h
    cases h
  | some p =>
    rw [here] at h
    cases p with
    | signalling c r =>
      obtain ⟨woken, wakes, rfl⟩ := Option.map_eq_some_iff.mp h
      exact move_of_wakeOne? here .inside wakes none
    | owing all r =>
      cases all with
      | true => cases h
      | false =>
        obtain ⟨woken, wakes, rfl⟩ := Option.map_eq_some_iff.mp h
        exact move_of_wakeOne? here .outside wakes woken.holder
    | idle | locking | waiting | woken => cases h

theorem move_of_step? {m m' : WaitingMachine E} {v : Event E} (h : m.step? v = some m') :
    Move m v m' := by
  cases v with
  | call i ask =>
    rw [step?] at h
    cases here : m.parties[i]? with
    | none =>
      rw [here] at h
      cases h
    | some p =>
      rw [here] at h
      cases p with
      | idle =>
        obtain rfl := Option.some.inj h
        exact .call here
      | locking | waiting | woken | signalling | owing => cases h
  | enter i =>
    rw [step?] at h
    cases here : m.parties[i]? with
    | none =>
      rw [here] at h
      cases h
    | some p =>
      rw [here] at h
      cases p with
      | locking ask => exact move_of_enter? here .first h
      | woken ask expired => exact move_of_enter? here .again h
      | idle | waiting | signalling | owing => cases h
  | notifyOne i j => exact move_of_notifyOne? h
  | notifyAll i =>
    rw [step?, notifyAll?] at h
    cases here : m.parties[i]? with
    | none =>
      rw [here] at h
      cases h
    | some p =>
      rw [here] at h
      cases p with
      | owing all r =>
        cases all with
        | false => cases h
        | true =>
          obtain rfl := Option.some.inj h
          exact .wakeAll here
      | idle | locking | waiting | woken | signalling => cases h
  | expire i =>
    rw [step?] at h
    cases here : m.parties[i]? with
    | none =>
      rw [here] at h
      cases h
    | some p =>
      rw [here] at h
      cases p with
      | waiting ask =>
        cases hasDeadline : ask.hasDeadline with
        | true =>
          simp only [hasDeadline, if_true] at h
          obtain rfl := Option.some.inj h
          exact .expire here hasDeadline
        | false => simp [hasDeadline] at h
      | idle | locking | woken | signalling | owing => cases h

end QueueSupply.WaitingMachine
