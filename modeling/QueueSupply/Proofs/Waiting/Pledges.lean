import QueueSupply.Proofs.Parties
import QueueSupply.Proofs.Waiting.Moves

set_option autoImplicit false

/-!
Why no notification is lost. What is there to be had, room or elements, is pledged: by a party that
is about to notify one waiting party of it, and by a party that was notified of it and has not
looked again. Nobody waits for more than is pledged, unless a notification of all is still to come.
-/

namespace QueueSupply.WaitingMachine

variable {E : Type} {m m' : WaitingMachine E} {v : Event E}

def Party.waitsFor (c : Condition) (p : Party E) : Bool := decide (p.awaits? = some c)

/-- The party will pass on one notification of `c`, or has received one and will look again. -/
def Party.pledges (c : Condition) : Party E → Bool
  | .woken ask expired => !expired && decide (ask.awaits = some c)
  | .signalling d _ => decide (d = c)
  | .owing false _ => decide (c = .notFull)
  | _ => false

def Party.floods : Party E → Bool
  | .owing true _ => true
  | _ => false

def waiters (c : Condition) (parties : List (Party E)) : Nat := parties.countP (Party.waitsFor c)

def pledged (c : Condition) (parties : List (Party E)) : Nat := parties.countP (Party.pledges c)

def flooding (parties : List (Party E)) : Nat := parties.countP Party.floods

def Covered (c : Condition) (q : WaitingQueue E) (parties : List (Party E)) : Prop :=
  waiters c parties = 0 ∨ (c = .notFull ∧ 0 < flooding parties) ∨ supply q c ≤ pledged c parties

section Changes

variable {c : Condition} {q q' : WaitingQueue E} {parties parties' : List (Party E)} {i : Nat}
variable {old new : Party E}

theorem Covered.change (h : Covered c q parties) (waits : waiters c parties' ≤ waiters c parties)
    (floods : c = .notFull → flooding parties ≤ flooding parties')
    (pledges : supply q' c + pledged c parties ≤ supply q c + pledged c parties') :
    Covered c q' parties' := by
  rcases h with nobody | ⟨room, flood⟩ | enough
  · exact .inl (Nat.le_zero.mp (nobody ▸ waits))
  · exact .inr (.inl ⟨room, Nat.lt_of_lt_of_le flood (floods room)⟩)
  · right
    right
    omega

theorem Covered.set (h : Covered c q parties) (here : parties[i]? = some old)
    (waits : (new.waitsFor c).toNat ≤ (old.waitsFor c).toNat)
    (floods : c = .notFull → old.floods = false)
    (pledges : supply q' c + (old.pledges c).toNat ≤ supply q c + (new.pledges c).toNat) :
    Covered c q' (parties.set i new) := by
  have waiters_set := Parties.countP_set here (Party.waitsFor c) new
  have flooding_set := Parties.countP_set here Party.floods new
  have pledged_set := Parties.countP_set here (Party.pledges c) new
  apply h.change
  · rw [waiters, waiters]
    omega
  · intro room
    rw [floods room] at flooding_set
    exact Nat.le.intro flooding_set.symm
  · rw [pledged, pledged]
    omega

theorem covered_of_supply (none_left : supply q c = 0) : Covered c q parties := by
  right
  right
  rw [none_left]
  exact Nat.zero_le _

theorem covered_of_floods (here : parties[i]? = some old) (floods : new.floods = true) :
    Covered .notFull q (parties.set i new) := by
  obtain ⟨lt, _⟩ := List.getElem?_eq_some_iff.mp here
  exact .inr (.inl ⟨rfl, List.countP_pos_iff.mpr ⟨new, List.mem_set lt new, floods⟩⟩)

end Changes

section Supply

variable {q : WaitingQueue E}

theorem supply_append (e : E) : supply (q.append e) .notEmpty = supply q .notEmpty + 1 :=
  List.length_append

theorem room_append {e : E} (room : q.isFull = false) :
    supply (q.append e) .notFull + 1 = supply q .notFull := by
  have lt : q.contents.length < q.capacity := by simpa [WaitingQueue.isFull] using room
  change q.capacity - (q.contents ++ [e]).length + 1 = q.capacity - q.contents.length
  rw [List.length_append, List.length_singleton]
  omega

theorem supply_rest {e : E} {rest : List E} (held : q.contents = e :: rest) :
    supply { q with contents := rest } .notEmpty + 1 = supply q .notEmpty := by
  rw [supply, supply, held, List.length_cons]

theorem room_rest {e : E} {rest : List E} (held : q.contents = e :: rest) :
    supply { q with contents := rest } .notFull ≤ supply q .notFull + 1 := by
  rw [supply, supply, held, List.length_cons]
  change q.capacity - rest.length ≤ _
  omega

end Supply

section Looking

variable {p : Party E} {ask : Ask E} {expired : Bool}

theorem Party.Looks.waitsFor (looks : p.Looks ask expired) (c : Condition) :
    p.waitsFor c = false := by
  cases looks <;> rfl

theorem Party.Looks.floods (looks : p.Looks ask expired) : p.floods = false := by
  cases looks <;> rfl

/-- Only a party that was notified of `c` gives a pledge up when it looks. -/
theorem Party.Looks.pledges (looks : p.Looks ask expired) {c : Condition}
    (other : ask.awaits ≠ some c ∨ expired = true) : p.pledges c = false := by
  cases looks with
  | first => rfl
  | again => rcases other with other | rfl <;> simp [Party.pledges, *]

theorem Refused.other {q : WaitingQueue E} {r : Returned E} (refused : Refused q ask expired r)
    (c : Condition) : ask.awaits ≠ some c ∨ expired = true := by
  cases refused with
  | timeout | nothingCame => exact .inr rfl
  | full | nothingThere => exact .inl nofun

theorem awaits_of_element? {e : E} (inserts : ask.element? = some e) :
    ask.awaits ≠ some .notEmpty := by
  cases ask with
  | put | putWithin | offer => nofun
  | take | takeWithin | poll | clear => cases inserts

theorem Covered.look {c : Condition} {q : WaitingQueue E} {parties : List (Party E)} {i : Nat}
    {looked : Looked E} (h : Covered c q parties) (here : parties[i]? = some p)
    (looks : p.Looks ask expired) (sees : Sees q ask expired looked) :
    Covered c looked.queue (parties.set i (looked.exit.party ask)) := by
  have not_flooding := fun _ : c = .notFull => looks.floods
  have at_most_one := Bool.toNat_le (p.pledges c)
  cases sees with
  | @rest _ _ d awaits lacks patient =>
    by_cases same : d = c
    · subst same
      exact covered_of_supply lacks
    · have other : ask.awaits ≠ some c := by
        rw [awaits]
        exact fun eq => same (Option.some.inj eq)
      have not_waiting : (Party.waiting ask).waitsFor c = false := decide_eq_false other
      have not_pledging := looks.pledges (.inl other)
      apply h.set here _ not_flooding
      · rw [not_pledging]
        exact Nat.le_refl _
      · change ((Party.waiting ask).waitsFor c).toNat ≤ _
        rw [not_waiting]
        exact Nat.zero_le _
  | refuse refused =>
    have not_pledging := looks.pledges (refused.other c)
    apply h.set here (Nat.zero_le _) not_flooding
    rw [not_pledging]
    exact Nat.le_refl _
  | @insert _ _ e inserts room =>
    apply h.set here (Nat.zero_le _) not_flooding
    cases c with
    | notFull =>
      have less := room_append (e := e) room
      change supply (q.append e) .notFull + _ ≤ _ + 0
      omega
    | notEmpty =>
      have not_pledging := looks.pledges (.inl (awaits_of_element? inserts))
      change supply (q.append e) .notEmpty + _ ≤ _ + 1
      rw [not_pledging, supply_append]
      exact Nat.le_refl _
  | @take _ _ e rest awaits held =>
    apply h.set here (Nat.zero_le _) not_flooding
    cases c with
    | notFull =>
      have not_pledging := looks.pledges (c := .notFull) (.inl (by rw [awaits]; nofun))
      rw [not_pledging]
      exact room_rest held
    | notEmpty =>
      have less := supply_rest held
      change supply { q with contents := rest } .notEmpty + _ ≤ _ + 0
      omega
  | poll held =>
    apply h.set here (Nat.zero_le _) not_flooding
    have not_pledging := looks.pledges (c := c) (.inl nofun)
    rw [not_pledging]
    cases c with
    | notFull => exact room_rest held
    | notEmpty => exact Nat.le_trans (Nat.le_succ _) (Nat.le_of_eq (supply_rest held))
  | clear =>
    cases c with
    | notFull => exact covered_of_floods here rfl
    | notEmpty => exact covered_of_supply rfl

end Looking

section Notifying

variable {p : Party E} {c d : Condition} {r : Returned E}

theorem Party.Notifies.waitsFor (notifies : p.Notifies c r) (d : Condition) :
    p.waitsFor d = false := by
  cases notifies <;> rfl

theorem Party.Notifies.floods (notifies : p.Notifies c r) : p.floods = false := by
  cases notifies <;> rfl

theorem Party.Notifies.pledges (notifies : p.Notifies c r) (d : Condition) :
    p.pledges d = decide (c = d) := by
  cases notifies with
  | inside => rfl
  | outside => exact decide_eq_decide.mpr eq_comm

/-- The pledge goes over to the party that is woken. -/
theorem Covered.wake {q : WaitingQueue E} {parties : List (Party E)} {i j : Nat} {ask : Ask E}
    (h : Covered d q parties) (notifies : p.Notifies c r)
    (there : parties[j]? = some (.waiting ask)) (awaits : ask.awaits = some c)
    (apart : (parties.set j (.woken ask false))[i]? = some p) :
    Covered d q ((parties.set j (.woken ask false)).set i .idle) := by
  have woken := fun f => Parties.countP_set there f (.woken ask false)
  have idle := fun f => Parties.countP_set apart f .idle
  have handed_over : (Party.woken ask false).pledges d = p.pledges d := by
    rw [notifies.pledges, Party.pledges, awaits, Bool.not_false, Bool.true_and]
    exact decide_eq_decide.mpr Option.some_inj
  apply h.change
  · have first := woken (Party.waitsFor d)
    have second := idle (Party.waitsFor d)
    have before : (Party.woken ask false).waitsFor d = false := rfl
    have after : (Party.idle : Party E).waitsFor d = false := rfl
    rw [before, Bool.toNat_false] at first
    rw [notifies.waitsFor, after] at second
    rw [waiters, waiters]
    omega
  · intro _
    have first := woken Party.floods
    have second := idle Party.floods
    rw [notifies.floods] at second
    exact Nat.le_of_eq (first.symm.trans second.symm)
  · have first := woken (Party.pledges d)
    have second := idle (Party.pledges d)
    have before : (Party.waiting ask).pledges d = false := rfl
    have after : (Party.idle : Party E).pledges d = false := rfl
    rw [handed_over, before] at first
    rw [after] at second
    rw [pledged, pledged]
    omega

theorem Covered.pass {q : WaitingQueue E} {parties : List (Party E)} {i : Nat}
    (h : Covered d q parties) (here : parties[i]? = some p) (notifies : p.Notifies c r)
    (nobody : ∀ p ∈ parties, p.awaits? ≠ some c) : Covered d q (parties.set i .idle) := by
  by_cases same : c = d
  · subst same
    left
    apply List.countP_eq_zero.mpr
    intro p mem
    rcases List.mem_or_eq_of_mem_set mem with mem | rfl
    · simpa [Party.waitsFor] using nobody p mem
    · exact Bool.false_ne_true
  · have not_pledging : p.pledges d = false := by
      rw [notifies.pledges]
      exact decide_eq_false same
    apply h.set here (Nat.zero_le _) fun _ => notifies.floods
    rw [not_pledging]
    exact Nat.le_refl _

theorem waitsFor_notified (c : Condition) (p : Party E) : (p.notified c).waitsFor c = false := by
  cases p with
  | waiting ask =>
    by_cases awaits : ask.awaits = some c
    · rw [Party.notified, if_pos awaits]
      rfl
    · rw [Party.notified, if_neg awaits]
      exact decide_eq_false awaits
  | idle | locking | woken | signalling | owing => rfl

theorem notified_other {p : Party E} (other : c ≠ d) :
    (p.notified c).waitsFor d = p.waitsFor d ∧ (p.notified c).pledges d = p.pledges d := by
  cases p with
  | waiting ask =>
    by_cases awaits : ask.awaits = some c
    · have elsewhere : decide (ask.awaits = some d) = false := by
        rw [awaits]
        exact decide_eq_false fun eq => other (Option.some.inj eq)
      rw [Party.notified, if_pos awaits]
      exact ⟨elsewhere.symm, elsewhere⟩
    · rw [Party.notified, if_neg awaits]
      exact ⟨rfl, rfl⟩
  | idle | locking | woken | signalling | owing => exact ⟨rfl, rfl⟩

theorem Covered.wakeAll {q : WaitingQueue E} {parties : List (Party E)} {i : Nat}
    (h : Covered d q parties) (here : parties[i]? = some (.owing true r)) :
    Covered d q ((parties.map (Party.notified .notFull)).set i .idle) := by
  cases d with
  | notFull =>
    left
    apply List.countP_eq_zero.mpr
    intro p mem
    rcases List.mem_or_eq_of_mem_set mem with mem | rfl
    · obtain ⟨old, _, rfl⟩ := List.mem_map.mp mem
      rw [waitsFor_notified]
      exact Bool.false_ne_true
    · exact Bool.false_ne_true
  | notEmpty =>
    have same : ∀ f : Party E → Bool, (∀ p : Party E, f (p.notified .notFull) = f p) →
        (parties.map (Party.notified .notFull)).countP f = parties.countP f := by
      intro f unchanged
      rw [List.countP_map]
      exact List.countP_congr fun p _ => by rw [Function.comp_apply, unchanged p]
    have waits := same (Party.waitsFor .notEmpty) fun p => (notified_other (by decide)).1
    have pledges := same (Party.pledges .notEmpty) fun p => (notified_other (by decide)).2
    have notified : Covered .notEmpty q (parties.map (Party.notified .notFull)) :=
      h.change (Nat.le_of_eq waits) nofun (Nat.le_of_eq (congrArg _ pledges.symm))
    have there : (parties.map (Party.notified .notFull))[i]? = some (.owing true r) := by
      rw [List.getElem?_map, here]
      rfl
    exact notified.set there (Nat.zero_le _) nofun (Nat.le_refl _)

end Notifying

theorem Covered.move {c : Condition} (h : Covered c m.queue m.parties) (move : Move m v m') :
    Covered c m'.queue m'.parties := by
  cases move with
  | call here => exact h.set here (Nat.le_refl _) (fun _ => rfl) (Nat.le_refl _)
  | enter here looks free sees => exact h.look here looks sees
  | wake here notifies there awaits =>
    exact h.wake notifies there awaits (notifies.apart here there)
  | pass here notifies nobody => exact h.pass here notifies nobody
  | wakeAll here => exact h.wakeAll here
  | expire here hasDeadline =>
    exact h.set here (Nat.zero_le _) (fun _ => rfl) (Nat.le_refl _)

/-- The party is not about to notify, and has looked since it was notified. -/
def Party.settled : Party E → Bool
  | .woken _ false => false
  | .signalling _ _ => false
  | .owing _ _ => false
  | _ => true

theorem Covered.supply_of_settled {c : Condition} {q : WaitingQueue E} {parties : List (Party E)}
    (h : Covered c q parties) (settled : ∀ p ∈ parties, p.settled = true) {p : Party E}
    (mem : p ∈ parties) (awaits : p.awaits? = some c) : supply q c = 0 := by
  have not_flooding : flooding parties = 0 := by
    apply List.countP_eq_zero.mpr
    intro p mem floods
    cases p with
    | owing all r => exact Bool.false_ne_true (settled _ mem)
    | idle | locking | waiting | woken | signalling => cases floods
  have not_pledged : pledged c parties = 0 := by
    apply List.countP_eq_zero.mpr
    intro p mem pledges
    cases p with
    | woken ask expired =>
      cases expired with
      | false => exact Bool.false_ne_true (settled _ mem)
      | true => cases pledges
    | signalling | owing => exact Bool.false_ne_true (settled _ mem)
    | idle | locking | waiting => cases pledges
  have waiting : 0 < waiters c parties :=
    List.countP_pos_iff.mpr ⟨p, mem, decide_eq_true awaits⟩
  rcases h with nobody | ⟨_, flood⟩ | enough
  · omega
  · omega
  · omega

end QueueSupply.WaitingMachine
