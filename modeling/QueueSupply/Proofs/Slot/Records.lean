import QueueSupply.Proofs.Slot.Stages

set_option autoImplicit false

namespace QueueSupply.SlotMachine

variable {E : Type} {m m' : SlotMachine E} {v : Event E} {past : List (Event E)}

def Event.begins : Event E → Option (Insist × E)
  | .insert insist e => some (insist, e)
  | _ => none

def begun (events : List (Event E)) : List (Insist × E) := events.filterMap Event.begins

theorem begun_snoc (events : List (Event E)) (v : Event E) :
    begun (events ++ [v]) = begun events ++ v.begins.toList := by
  rw [begun, List.filterMap_append]
  cases begins : v.begins with
  | none =>
    rw [List.filterMap_cons_none begins]
    rfl
  | some call =>
    rw [List.filterMap_cons_some begins]
    rfl

theorem begun_snoc_none {v : Event E} (begins : v.begins = none) (events : List (Event E)) :
    begun (events ++ [v]) = begun events := by
  rw [begun_snoc, begins]
  exact List.append_nil _

def succeeded (outcomes : List ((Insist × E) × Inserted E)) : List E :=
  outcomes.filterMap fun
    | ((_, e), .ok ()) => some e
    | _ => none

/-- Each of the calls has an outcome that it may have, and the elements of those that succeeded have
been accepted. -/
inductive Tally : List (Insist × E) → List (Inserted E) → List E → Prop
  | nil : Tally [] [] []
  | accept {calls : List (Insist × E)} {outs : List (Inserted E)} {accepted : List E}
      {insist : Insist} {e : E} (tally : Tally calls outs accepted) :
      Tally (calls ++ [(insist, e)]) (outs ++ [.ok ()]) (accepted ++ [e])
  | refuse {calls : List (Insist × E)} {outs : List (Inserted E)} {accepted : List E}
      {call : Insist × E} {err : QueueError E} (tally : Tally calls outs accepted)
      (settled : Settled call (.error err)) :
      Tally (calls ++ [call]) (outs ++ [.error err]) accepted

namespace Tally

variable {calls : List (Insist × E)} {outs : List (Inserted E)} {accepted : List E}

theorem length_eq (h : Tally calls outs accepted) : calls.length = outs.length := by
  induction h with
  | nil => rfl
  | accept tally ih => rw [List.length_append, List.length_append, ih]; rfl
  | refuse tally settled ih => rw [List.length_append, List.length_append, ih]; rfl

theorem settled (h : Tally calls outs accepted) :
    ∀ o ∈ calls.zip outs, Settled o.1 o.2 := by
  induction h with
  | nil =>
    intro o mem
    cases mem
  | accept tally ih =>
    intro o mem
    rw [List.zip_append tally.length_eq] at mem
    obtain before | last := List.mem_append.mp mem
    · exact ih o before
    · rw [List.mem_singleton.mp last]
      exact .ok
  | refuse tally settled ih =>
    intro o mem
    rw [List.zip_append tally.length_eq] at mem
    obtain before | last := List.mem_append.mp mem
    · exact ih o before
    · rw [List.mem_singleton.mp last]
      exact settled

theorem succeeded_zip (h : Tally calls outs accepted) : succeeded (calls.zip outs) = accepted := by
  induction h with
  | nil => rfl
  | accept tally ih =>
    rw [List.zip_append tally.length_eq, succeeded, List.filterMap_append]
    exact congrArg (· ++ [_]) ih
  | refuse tally settled ih =>
    rw [List.zip_append tally.length_eq, succeeded, List.filterMap_append]
    exact (List.append_nil _).trans ih

end Tally

def Producer.Holds : Producer E → List (Insist × E) → Prop
  | .idle, calls => calls = []
  | .trying insist e, calls => calls = [(insist, e)]
  | .writing e, calls => ∃ insist, calls = [(insist, e)]
  | .publishing e, calls => ∃ insist, calls = [(insist, e)]

theorem Producer.Holds.length_le {p : Producer E} {calls : List (Insist × E)}
    (h : p.Holds calls) : calls.length ≤ 1 := by
  cases p with
  | idle =>
    cases h
    exact Nat.zero_le 1
  | trying =>
    cases h
    exact Nat.le_refl 1
  | writing | publishing =>
    obtain ⟨_, rfl⟩ := h
    exact Nat.le_refl 1

def Booked (past : List (Event E)) (m : SlotMachine E) : Prop :=
  ∃ done held, begun past = done ++ held ∧ m.producer.Holds held ∧ Tally done m.inserts m.accepted

theorem Booked.keep (h : Booked past m) (begins : v.begins = none)
    (producer : m'.producer = m.producer) (inserts : m'.inserts = m.inserts)
    (accepted : m'.accepted = m.accepted) : Booked (past ++ [v]) m' := by
  obtain ⟨done, held, eq, holds, tally⟩ := h
  rw [← inserts, ← accepted] at tally
  exact ⟨done, held, (begun_snoc_none begins past).trans eq, producer ▸ holds, tally⟩

theorem Booked.move (h : Booked past m) (move : Move m v m') : Booked (past ++ [v]) m' := by
  cases move with
  | @insert insist e idle =>
    obtain ⟨done, held, eq, holds, tally⟩ := h
    rw [idle] at holds
    obtain rfl := holds
    refine ⟨done, [(insist, e)], ?_, rfl, tally⟩
    rw [begun_snoc, eq, List.append_nil]
    rfl
  | @refuse _ insist e err trying busy settled =>
    obtain ⟨done, held, eq, holds, tally⟩ := h
    rw [trying] at holds
    obtain rfl := holds
    refine ⟨done ++ [(insist, e)], [], ?_, rfl, tally.refuse settled⟩
    rw [begun_snoc_none rfl, eq, List.append_nil]
  | @claim _ insist e trying free =>
    obtain ⟨done, held, eq, holds, tally⟩ := h
    rw [trying] at holds
    exact ⟨done, held, (begun_snoc_none rfl past).trans eq, ⟨insist, holds⟩, tally⟩
  | write writing =>
    obtain ⟨done, held, eq, holds, tally⟩ := h
    rw [writing] at holds
    exact ⟨done, held, (begun_snoc_none rfl past).trans eq, holds, tally⟩
  | @publish _ e publishing =>
    obtain ⟨done, held, eq, holds, tally⟩ := h
    rw [publishing] at holds
    obtain ⟨insist, rfl⟩ := holds
    refine ⟨done ++ [(insist, e)], [], ?_, rfl, tally.accept⟩
    rw [begun_snoc_none rfl, eq, List.append_nil]
  | retry | seek | goOn | giveUp | lock | vacate | release | look | aim | miss | enter | read
  | leave | measure => exact h.keep rfl rfl rfl rfl

def Consumer.inHand : Consumer E → Option E
  | .releasing _ got => got
  | _ => none

theorem Consumer.Seeks.inHand {c : Consumer E} {due : Option E} (h : c.Seeks due) :
    c.inHand = none := by
  cases h <;> rfl

/-- Every finished poll returned what was due to it, and the polls account for what is taken. -/
structure Paid (m : SlotMachine E) : Prop where
  polls : ∀ p ∈ m.polls, Meets p.1 p.2
  taken : m.taken = m.polls.filterMap Prod.snd ++ m.consumer.inHand.toList

theorem Paid.record {polls : List (Option E × Option E)} {due got : Option E}
    (before : ∀ p ∈ polls, Meets p.1 p.2) (meets : Meets due got) :
    ∀ p ∈ polls ++ [(due, got)], Meets p.1 p.2 := by
  intro p mem
  obtain old | last := List.mem_append.mp mem
  · exact before p old
  · rw [List.mem_singleton.mp last]
    exact meets

theorem filterMap_record (polls : List (Option E × Option E)) (due got : Option E) :
    (polls ++ [(due, got)]).filterMap Prod.snd = polls.filterMap Prod.snd ++ got.toList := by
  rw [List.filterMap_append]
  cases got <;> rfl

theorem Paid.move {s : Stage E} (h : Paid m) (place : At m s) (move : Move m v m') : Paid m' := by
  have taken := h.taken
  cases move with
  | seek idle =>
    rw [idle] at taken
    exact ⟨h.polls, taken⟩
  | goOn seeks still =>
    rw [seeks.inHand] at taken
    refine ⟨h.polls, ?_⟩
    change m.taken = _ ++ (Consumer.inHand _).toList
    rw [still.inHand]
    exact taken
  | @giveUp _ due seeks off =>
    rw [seeks.inHand] at taken
    have meets : Meets due none := place.due_none seeks off ▸ place.meets_of_seeks seeks
    refine ⟨Paid.record h.polls meets, ?_⟩
    rw [filterMap_record, List.append_assoc]
    exact taken
  | lock exchanging full =>
    rw [exchanging] at taken
    exact ⟨h.polls, taken⟩
  | vacate moving =>
    rw [moving] at taken
    refine ⟨h.polls, ?_⟩
    change m.taken ++ _ = _
    rw [taken]
    exact congrArg (· ++ m.queue.slot.toList) (List.append_nil _)
  | @release _ due got releasing =>
    obtain ⟨rfl, meets⟩ := place.at_vacated releasing
    rw [releasing] at taken
    refine ⟨Paid.record h.polls meets, ?_⟩
    rw [filterMap_record]
    exact taken.trans (List.append_nil _).symm
  | insert | retry | refuse | claim | write | publish | look | aim | miss | enter | read | leave
  | measure => exact ⟨h.polls, taken⟩

end QueueSupply.SlotMachine
