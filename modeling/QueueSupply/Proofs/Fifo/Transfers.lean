import QueueSupply.Proofs.Fifo.Room

set_option autoImplicit false

namespace QueueSupply

namespace Transfer

variable {Q E : Type} {R : Q → Fifo E → Prop} {t t' : Transfer Q E} {l l' : Fifo E} {turn : Turn}

inductive Advance (R : Q → Fifo E → Prop) (t : Transfer Q E) (l : Fifo E) :
    Turn → Transfer Q E → Fifo E → Prop
  | rest (all_in : t.pending = []) (stands : R t.queue l) : Advance R t l .producer t l
  | retry {q : Q} (full : l.isFull = true) (stands : R q l) :
      Advance R t l .producer { t with queue := q } l
  | insert {q : Q} {e : E} {rest : List E} (next : t.pending = e :: rest)
      (stands : R q (l.append [e])) :
      Advance R t l .producer { t with queue := q, pending := rest } (l.append [e])
  | miss {q : Q} (empty : l.items = []) (stands : R q l) :
      Advance R t l .consumer { t with queue := q } l
  | receive {q : Q} {e : E} {rest : List E} (held : l.items = e :: rest) (stands : R q l.pop) :
      Advance R t l .consumer { t with queue := q, received := t.received ++ [e] } l.pop

/-- What has been received, what is held and what is still to be inserted make up `all`. -/
structure Carries (R : Q → Fifo E → Prop) (bound : Option Nat) (all : List E) (t : Transfer Q E)
    (l : Fifo E) : Prop where
  stands : R t.queue l
  bound_eq : l.bound = bound
  all_eq : t.received ++ l.items ++ t.pending = all

variable {bound : Option Nat} {all : List E}

theorem Carries.advance (h : Carries R bound all t l) (advance : Advance R t l turn t' l') :
    Carries R bound all t' l' := by
  cases advance with
  | rest all_in stands => exact h
  | retry full stands => exact ⟨stands, h.bound_eq, h.all_eq⟩
  | @insert q e rest next stands =>
    refine ⟨stands, h.bound_eq, ?_⟩
    calc t.received ++ (l.items ++ [e]) ++ rest
        = t.received ++ l.items ++ (e :: rest) := by simp
      _ = all := next ▸ h.all_eq
  | miss empty stands => exact ⟨stands, h.bound_eq, h.all_eq⟩
  | @receive q e rest held stands =>
    refine ⟨stands, h.bound_eq, ?_⟩
    calc t.received ++ [e] ++ l.items.tail ++ t.pending
        = t.received ++ l.items ++ t.pending := by simp [held]
      _ = all := h.all_eq

/-- After a turn of the producer something is held, unless all has been received: the producer has
inserted, or was turned down by a full queue, or had nothing left to insert. -/
theorem Carries.held_of_producer (h : Carries R bound all t l) (holds : bound ≠ some 0)
    (short : t.received.length < all.length) (advance : Advance R t l .producer t' l') :
    t'.received = t.received ∧ l'.items ≠ [] := by
  cases advance with
  | rest all_in stands =>
    refine ⟨rfl, ?_⟩
    intro empty
    have lengths := congrArg List.length h.all_eq
    rw [empty, all_in, List.append_nil, List.append_nil] at lengths
    omega
  | retry full stands =>
    refine ⟨rfl, ?_⟩
    intro empty
    obtain ⟨n, has_bound, le⟩ := l.isFull_iff.mp full
    rw [empty, List.length_nil, Nat.le_zero] at le
    exact holds (by rw [← h.bound_eq, has_bound, le])
  | insert next stands => exact ⟨rfl, by simp [Fifo.append]⟩

variable [Buffer Q E] {m : Manner}

theorem advance_producer (rep : Represents R m) (stands : R t.queue l) :
    ∃ l', Advance R t l .producer (t.step .producer) l' := by
  cases next : t.pending with
  | nil =>
    have stepped : t.step .producer = t := by simp only [step, next]
    rw [stepped]
    exact ⟨l, .rest next stands⟩
  | cons e rest =>
    obtain ⟨answer, after⟩ := rep.offer stands e
    rcases offered : Buffer.offer t.queue e with ⟨r, q⟩
    rw [offered] at answer after
    cases full : l.isFull with
    | true =>
      simp only [Fifo.offer, full, if_true] at answer after
      -- The element that is handed back is the one that was offered.
      have stepped : t.step .producer = { t with queue := q } := by
        simp only [step, next, offered, answer, QueueError.handedBack, List.singleton_append]
      rw [stepped]
      exact ⟨l, .retry full after⟩
    | false =>
      simp only [Fifo.offer, full, Bool.false_eq_true, if_false] at answer after
      have stepped : t.step .producer = { t with queue := q, pending := rest } := by
        simp only [step, next, offered, answer]
      rw [stepped]
      exact ⟨l.append [e], .insert next after⟩

theorem advance_consumer (rep : Represents R m) (stands : R t.queue l) :
    ∃ l', Advance R t l .consumer (t.step .consumer) l' := by
  obtain ⟨head, after⟩ := rep.poll stands
  rcases polled : Buffer.poll t.queue with ⟨got, q⟩
  rw [polled] at head after
  cases held : l.items with
  | nil =>
    have same : l.pop = l := by cases l; simp_all [Fifo.pop]
    rw [held] at head
    obtain rfl : got = none := head
    have stepped : t.step .consumer = { t with queue := q } := by simp only [step, polled]
    rw [stepped]
    exact ⟨l, .miss held (same ▸ after)⟩
  | cons e rest =>
    rw [held] at head
    obtain rfl : got = some e := head
    have stepped : t.step .consumer = { t with queue := q, received := t.received ++ [e] } := by
      simp only [step, polled]
    rw [stepped]
    exact ⟨l.pop, .receive held after⟩

theorem advance_step (rep : Represents R m) (stands : R t.queue l) (turn : Turn) :
    ∃ l', Advance R t l turn (t.step turn) l' := by
  cases turn with
  | producer => exact advance_producer rep stands
  | consumer => exact advance_consumer rep stands

theorem Carries.run (rep : Represents R m) (schedule : List Turn) :
    ∀ {t l}, Carries R bound all t l → ∃ l', Carries R bound all (t.run schedule) l' := by
  induction schedule with
  | nil => exact fun h => ⟨_, h⟩
  | cons turn schedule ih =>
    intro t l h
    obtain ⟨l', advance⟩ := advance_step rep h.stands turn
    exact ih (h.advance advance)

/-- The values arrive in order, behind what was held before, and when as much has arrived as there
is, then all of it has and nothing is left. -/
structure InOrder (content values : List E) (t : Transfer Q E) : Prop where
  all_eq : t.received ++ Buffer.toList t.queue ++ t.pending = content ++ values
  done : t.received.length = content.length + values.length →
    t.received = content ++ values ∧ t.pending = [] ∧ Buffer.toList t.queue = [] ∧
      Buffer.len t.queue = 0 ∧ Buffer.isEmpty t.queue = true

theorem Carries.inOrder {content values : List E} (rep : Represents R m)
    (h : Carries R bound (content ++ values) t l) : InOrder content values t where
  all_eq := by
    rw [rep.toList h.stands]
    exact h.all_eq
  done complete := by
    have lengths := congrArg List.length h.all_eq
    simp only [List.length_append] at lengths
    have nothing_held : l.items = [] := List.eq_nil_of_length_eq_zero (by omega)
    have nothing_pending : t.pending = [] := List.eq_nil_of_length_eq_zero (by omega)
    have all_received := h.all_eq
    rw [nothing_held, nothing_pending, List.append_nil, List.append_nil] at all_received
    refine ⟨all_received, nothing_pending, ?_, ?_, ?_⟩
    · rw [rep.toList h.stands, nothing_held]
    · rw [rep.len h.stands, nothing_held]
      rfl
    · rw [rep.isEmpty h.stands, nothing_held]
      rfl

theorem Carries.receives (rep : Represents R m) (h : Carries R bound all t l)
    (holds : bound ≠ some 0) (short : t.received.length < all.length) :
    (t.step .producer).received = t.received ∧
      ∃ l', Carries R bound all ((t.step .producer).step .consumer) l' ∧
        ((t.step .producer).step .consumer).received.length = t.received.length + 1 := by
  obtain ⟨between, produced⟩ := advance_step rep h.stands .producer
  obtain ⟨same, held⟩ := h.held_of_producer holds short produced
  have carried := h.advance produced
  obtain ⟨l', consumed⟩ := advance_step rep carried.stands .consumer
  refine ⟨same, l', carried.advance consumed, ?_⟩
  rw [← same]
  generalize (t.step .producer).step .consumer = final at consumed ⊢
  cases consumed with
  | miss empty stands => exact absurd empty held
  | receive first stands => exact List.length_append

/-- In each round one more element arrives, as long as not all have. -/
theorem Carries.rounds (rep : Represents R m) (holds : bound ≠ some 0) (n : Nat) :
    ∀ {t l}, Carries R bound all t l → t.received.length + n = all.length →
      ∃ l', Carries R bound all (rounds all.length n t) l' ∧
        (Transfer.rounds all.length n t).received.length = all.length := by
  induction n with
  | zero => exact fun h enough => ⟨_, h, enough⟩
  | succ n ih =>
    intro t l h enough
    obtain ⟨same, l', next, one_more⟩ := h.receives rep holds (by omega)
    have short : (t.step .producer).received.length < all.length := by
      rw [same]
      omega
    simp only [Transfer.rounds, if_pos short]
    exact ih next (by omega)

end Transfer

/-- After any steps on a new queue of any type, the values that a producer inserts while a consumer
polls arrive behind what was held, all of them and in order, however their calls alternate. Unless
the queue can hold nothing, all of them do arrive when the two take turns. -/
theorem transfer_in_order {E : Type} [DecidableEq E] [Ordered E] (type : QueueType)
    (steps : List (QueueStep E)) (values : List E) :
    (∀ schedule : List Transfer.Turn,
      Transfer.InOrder (Buffer.toList (QueueStep.after (type.fresh : AnyQueue E) steps)) values
        ((Transfer.start (QueueStep.after type.fresh steps) values).run schedule)) ∧
      (type.bound ≠ some 0 →
        (Transfer.complete (QueueStep.after type.fresh steps) values 0).received =
          Buffer.toList (QueueStep.after (type.fresh : AnyQueue E) steps) ++ values) := by
  obtain ⟨R, l, rep, now, bound, _⟩ := type.represented_after steps
  have content := rep.toList now
  have start : Transfer.Carries R type.bound (l.items ++ values)
      (Transfer.start (QueueStep.after type.fresh steps) values) l := ⟨now, bound, rfl⟩
  rw [content]
  constructor
  · intro schedule
    obtain ⟨l', final⟩ := Transfer.Carries.run rep schedule start
    exact final.inOrder rep
  · intro holds
    have due : Buffer.len (QueueStep.after (type.fresh : AnyQueue E) steps) + values.length =
        (l.items ++ values).length := by
      rw [rep.len now, List.length_append]
    obtain ⟨l', final, arrived⟩ :=
      Transfer.Carries.rounds rep holds (l.items ++ values).length start (Nat.zero_add _)
    rw [Transfer.complete, due]
    exact ((final.inOrder rep).done (by rw [arrived, List.length_append])).1

/-- The second value is turned down once. -/
example : ((Transfer.start (QueueType.slot.fresh : AnyQueue Int) [1, 2]).run
    [.producer, .producer, .consumer, .producer, .consumer]).received = [1, 2] := rfl

end QueueSupply
