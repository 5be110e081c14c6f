import QueueSupply.Proofs.Fifo.Basic

set_option autoImplicit false

/-!
Queues that stand for lists. A relation between the queues of a type and lists represents them in a
manner when each method gives what the list gives and leads to a related queue and list. Then every
call does, those made up of methods included, and so does every run of calls.
-/

namespace QueueSupply

section Agreement

variable {Q E α β : Type} {R : Q → Fifo E → Prop}

/-- The same answer, and a queue after it that is related to the list after it. -/
def Agree (R : Q → Fifo E → Prop) (x : α × Q) (y : α × Fifo E) : Prop := x.1 = y.1 ∧ R x.2 y.2

theorem Agree.map (f : α → β) {x : α × Q} {y : α × Fifo E} (h : Agree R x y) :
    Agree R (Prod.map f id x) (Prod.map f id y) :=
  ⟨congrArg f h.1, h.2⟩

theorem agree_orNoSuchElement {m : Manner} (fails : m.failsEmpty = true) {x : Option E × Q}
    {l l' : Fifo E} (h : Agree R x (l.items.head?, l')) :
    Agree R (Prod.map orNoSuchElement id x) (m.fetch l, l') := by
  refine ⟨?_, h.2⟩
  have head : x.1 = l.items.head? := h.1
  change orNoSuchElement x.1 = m.fetch l
  rw [head]
  cases hl : l.items with
  | nil => simp [orNoSuchElement, Manner.fetch, hl, fails]
  | cons e rest => simp [orNoSuchElement, Manner.fetch, hl]

theorem isEmpty_of_len {n : Nat} {l : Fifo E} (h : n = l.items.length) :
    (n == 0) = l.items.isEmpty := by
  rw [h]
  cases l.items <;> rfl

end Agreement

variable {Q E : Type} [Buffer Q E] {R : Q → Fifo E → Prop}

/-- Bulk insertion by offers one after the other takes what fits and hands back the rest. -/
theorem agree_offerInTurn
    (offer : ∀ {q l}, R q l → ∀ e, Agree R (Buffer.offer q e) (l.offer e)) (es : List E) :
    ∀ {q l}, R q l → Agree R (offerInTurn Buffer.offer q es) (l.offerAll es) := by
  induction es with
  | nil =>
    intro q l h
    rw [Fifo.offerAll_nil]
    exact ⟨rfl, h⟩
  | cons e es ih =>
    intro q l h
    have now := offer h e
    rcases hq : Buffer.offer q e with ⟨outcome, q'⟩
    rw [hq] at now
    cases full : l.isFull with
    | true =>
      simp only [Fifo.offer, full, if_true] at now
      obtain ⟨rfl, after⟩ := now
      rw [Fifo.offerAll_cons_of_isFull full]
      simp only [offerInTurn, hq]
      exact ⟨rfl, after⟩
    | false =>
      simp only [Fifo.offer, full, Bool.false_eq_true, if_false] at now
      obtain ⟨rfl, after⟩ := now
      rw [Fifo.offerAll_cons_of_room full]
      simp only [offerInTurn, hq]
      exact ih after

/-- The laws of the methods that a queue type has to give, and of those it seldom leaves to the
defaults. -/
structure Follows (R : Q → Fifo E → Prop) (m : Manner) : Prop where
  toList {q : Q} {l : Fifo E} (h : R q l) : Buffer.toList q = l.items
  len {q : Q} {l : Fifo E} (h : R q l) : Buffer.len q = l.items.length
  capacityClass {q : Q} {l : Fifo E} (h : R q l) : Buffer.capacityClass q = l.boundClass
  remaining {q : Q} {l : Fifo E} (h : R q l) : Buffer.remaining q = m.remaining l
  offer {q : Q} {l : Fifo E} (h : R q l) (e : E) : Agree R (Buffer.offer q e) (l.offer e)
  poll {q : Q} {l : Fifo E} (h : R q l) : Agree R (Buffer.poll q) (l.items.head?, l.pop)
  peek {q : Q} {l : Fifo E} (h : R q l) : Agree R (Buffer.peek q) (l.items.head?, l)
  clear {q : Q} {l : Fifo E} (h : R q l) : R (Buffer.clear q) l.wipe

structure Represents (R : Q → Fifo E → Prop) (m : Manner) : Prop extends Follows R m where
  isEmpty {q : Q} {l : Fifo E} (h : R q l) : Buffer.isEmpty q = l.items.isEmpty
  offerAll {q : Q} {l : Fifo E} (h : R q l) (es : List E) :
    Agree R (Buffer.offerAll q es) (m.offerAll l es)
  element {q : Q} {l : Fifo E} (h : R q l) : Agree R (Buffer.element q) (m.fetch l, l)
  remove {q : Q} {l : Fifo E} (h : R q l) : Agree R (Buffer.remove q) (m.fetch l, l.pop)

def Call.isClear : Call E → Bool
  | .clear => true
  | _ => false

structure KeepsDefaults (Q : Type) {E : Type} [Buffer Q E] : Prop where
  isEmpty (q : Q) : Buffer.isEmpty q = (Buffer.len q == 0)
  offerAll (q : Q) (es : List E) : Buffer.offerAll q es = offerInTurn Buffer.offer q es
  element (q : Q) : Buffer.element q = Prod.map orNoSuchElement id (Buffer.peek q)
  remove (q : Q) : Buffer.remove q = Prod.map orNoSuchElement id (Buffer.poll q)

theorem Follows.represents {m : Manner} (f : Follows R m) (kept : KeepsDefaults Q)
    (bulk : m.takesBulk = true) (fails : m.failsEmpty = true) : Represents R m where
  toFollows := f
  isEmpty {q l} h := by
    rw [kept.isEmpty]
    exact isEmpty_of_len (f.len h)
  offerAll {q l} h es := by
    rw [kept.offerAll, Manner.offerAll, if_pos bulk]
    exact agree_offerInTurn f.offer es h
  element {q l} h := by
    rw [kept.element]
    exact agree_orNoSuchElement fails (f.peek h)
  remove {q l} h := by
    rw [kept.remove]
    exact agree_orNoSuchElement fails (f.poll h)

namespace Represents

variable {m : Manner} {q : Q} {l : Fifo E}

theorem next (rep : Represents R m) (h : R q l) :
    Agree R (Buffer.next q) (l.items.head?, l.pop) := by
  have empty := rep.isEmpty h
  cases hl : l.items with
  | nil =>
    rw [hl] at empty
    have same : l.pop = l := by cases l; simp_all [Fifo.pop]
    rw [Buffer.next_of_isEmpty empty, same]
    exact ⟨rfl, h⟩
  | cons e rest =>
    rw [hl] at empty
    rw [Buffer.next_of_not_isEmpty empty, ← hl]
    exact rep.poll h

theorem drains (rep : Represents R m) (items : List E) :
    ∀ {q : Q} {l : Fifo E}, R q l → l.items = items →
      ∃ q', Buffer.Drains q items q' ∧ R q' l.wipe := by
  -- The list is the induction's; the queue changes with every step.
  induction items with
  | nil =>
    intro q l h hl
    obtain ⟨first, after⟩ := rep.next h
    have last : l.pop = l.wipe := by simp [Fifo.pop, Fifo.wipe, hl]
    rcases step : Buffer.next q with ⟨got, q'⟩
    simp only [step, hl, List.head?_nil, last] at first after
    exact ⟨q', .ended (step.trans (by rw [first])), after⟩
  | cons e rest ih =>
    intro q l h hl
    obtain ⟨first, after⟩ := rep.next h
    rcases step : Buffer.next q with ⟨got, q'⟩
    simp only [step, hl, List.head?_cons] at first after
    obtain ⟨q'', others, final⟩ := ih after (by simp [Fifo.pop, hl])
    exact ⟨q'', .yields (step.trans (by rw [first])) others, final⟩

theorem exists_drained (rep : Represents R m) (h : R q l) :
    ∃ q', Buffer.Drains q l.items q' ∧ Buffer.drain q = (l.items, q') ∧ R q' l.wipe := by
  obtain ⟨q', drains, final⟩ := rep.drains l.items h rfl
  have enough : l.items.length < (Buffer.toList q).length + 1 := by
    rw [rep.toList h]
    exact Nat.lt_succ_self _
  exact ⟨q', drains, drains.pollUpTo_eq enough, final⟩

theorem drain (rep : Represents R m) (h : R q l) : Agree R (Buffer.drain q) (l.items, l.wipe) := by
  obtain ⟨q', -, drained, final⟩ := rep.exists_drained h
  rw [drained]
  exact ⟨rfl, final⟩

theorem capacity (rep : Represents R m) (h : R q l) : Buffer.capacity q = m.capacity l := by
  have top : Capacity.unbounded = 9223372036854775807 := rfl
  have ofSize (n : Nat) : Capacity.ofSize n = Fifo.reported (some n) := by
    simp only [Capacity.ofSize, Fifo.reported]
    split <;> omega
  unfold Buffer.capacity Manner.capacity
  rw [rep.remaining h, rep.capacityClass h]
  cases told : m.tellsRoom with
  | true =>
    cases hb : l.bound with
    | none => simp [Capacity.ofReport, Manner.remaining, told, Fifo.room, Fifo.boundClass, hb,
        Fifo.reported, Capacity.unbounded]
    | some n => simp [Capacity.ofReport, Manner.remaining, told, Fifo.room, hb, ofSize]
  | false =>
    cases hb : l.bound with
    | none => simp [Capacity.ofReport, Manner.remaining, told, Fifo.boundClass, hb,
        Fifo.reported, Capacity.unbounded]
    | some n => simp [Capacity.ofReport, Manner.remaining, told, Fifo.boundClass, hb, ofSize]

theorem call (rep : Represents R m) (h : R q l) (c : Call E) :
    Agree R (Buffer.call q c) (m.answer l c) := by
  cases c with
  | offer e => exact (rep.offer h e).map Result.inserted
  | offerAll es => exact (rep.offerAll h es).map Result.inserted
  | poll => exact (rep.poll h).map Result.option
  | peek => exact (rep.peek h).map Result.option
  | element => exact (rep.element h).map Result.fetched
  | remove => exact (rep.remove h).map Result.fetched
  | clear => exact ⟨rfl, rep.clear h⟩
  | len => exact ⟨congrArg Result.number (rep.len h), h⟩
  | isEmpty => exact ⟨congrArg Result.flag (rep.isEmpty h), h⟩
  | capacityClass => exact ⟨congrArg Result.capacityClass (rep.capacityClass h), h⟩
  | remaining => exact ⟨congrArg Result.remaining (rep.remaining h), h⟩
  | capacity => exact ⟨congrArg Result.capacity (rep.capacity h), h⟩
  | next => exact (rep.next h).map Result.option
  | count => exact ((rep.drain h).map List.length).map Result.number
  | drain => exact (rep.drain h).map Result.items

theorem run (rep : Represents R m) (h : R q l) (calls : List (Call E)) :
    Agree R (Buffer.run q calls) (m.run l calls) := by
  induction calls generalizing q l with
  | nil => exact ⟨rfl, h⟩
  | cons c rest ih =>
    obtain ⟨now, after⟩ := rep.call h c
    obtain ⟨later, final⟩ := ih after
    refine ⟨?_, final⟩
    change (Buffer.call q c).1 :: (Buffer.run (Buffer.call q c).2 rest).1 =
      (m.answer l c).1 :: (m.run (m.answer l c).2 rest).1
    rw [now, later]

end Represents

def PollsIdly (R : Q → Fifo E → Prop) : Prop :=
  ∀ {q l}, R q l → l.items = [] → Buffer.poll q = (none, q)

theorem Represents.next_eq_poll {m : Manner} {q : Q} {l : Fifo E} (rep : Represents R m)
    (idle : PollsIdly R) (h : R q l) : Buffer.next q = Buffer.poll q := by
  have empty := rep.isEmpty h
  cases hl : l.items with
  | nil =>
    rw [hl] at empty
    rw [Buffer.next_of_isEmpty empty, idle h hl]
  | cons e rest =>
    rw [hl] at empty
    exact Buffer.next_of_not_isEmpty empty

section Keeping

variable {P : Q → Prop}

omit [Buffer Q E] in
theorem offerInTurn_keeps {offer : Q → E → Inserted E × Q}
    (offers : ∀ q e, P q → P (offer q e).2) (es : List E) :
    ∀ q, P q → P (offerInTurn offer q es).2 := by
  induction es with
  | nil => exact fun q kept => kept
  | cons e es ih =>
    intro q kept
    have now := offers q e kept
    rw [offerInTurn]
    split
    · next q' offered => exact ih q' (by rwa [offered] at now)
    · next err q' offered => rwa [offered] at now

omit [Buffer Q E] in
theorem pollUpTo_keeps {poll : Q → Option E × Q} (polls : ∀ q, P q → P (poll q).2) (limit : Nat) :
    ∀ q, P q → P (pollUpTo poll limit q).2 := by
  induction limit with
  | zero => exact fun q kept => kept
  | succ limit ih =>
    intro q kept
    have now := polls q kept
    rw [pollUpTo]
    split
    · next q' polled => rwa [polled] at now
    · next e q' polled => exact ih q' (by rwa [polled] at now)

/-- What offers, polls and looks keep is kept by every call but the one that empties the queue. -/
theorem KeepsDefaults.call_keeps (kept : KeepsDefaults Q)
    (offers : ∀ q e, P q → P (Buffer.offer q e).2) (polls : ∀ q, P q → P (Buffer.poll q).2)
    (peeks : ∀ q, P q → P (Buffer.peek q).2) {c : Call E} (other : c.isClear = false) {q : Q}
    (now : P q) : P (Buffer.call q c).2 := by
  have nexts : ∀ q : Q, P q → P (Buffer.next q).2 := by
    intro q now
    rw [Buffer.next]
    split
    · exact now
    · exact polls q now
  cases c with
  | offer e => exact offers q e now
  | offerAll es =>
    change P (Buffer.offerAll q es).2
    rw [kept.offerAll]
    exact offerInTurn_keeps offers es q now
  | poll => exact polls q now
  | peek => exact peeks q now
  | element =>
    change P (Buffer.element q).2
    rw [kept.element]
    exact peeks q now
  | remove =>
    change P (Buffer.remove q).2
    rw [kept.remove]
    exact polls q now
  | clear => cases other
  | len | isEmpty | capacityClass | remaining | capacity => exact now
  | next => exact nexts q now
  | count | drain => exact pollUpTo_keeps nexts ((Buffer.toList q).length + 1) q now

end Keeping

/-- In every run the queue answers each call as the list does, and holds what the list holds. -/
def AnswersAs (q : Q) (m : Manner) (l : Fifo E) : Prop :=
  ∀ calls : List (Call E),
    (Buffer.run q calls).1 = (m.run l calls).1 ∧
      Buffer.toList (Buffer.run q calls).2 = (m.run l calls).2.items

theorem Represents.answersAs {m : Manner} {q : Q} {l : Fifo E} (rep : Represents R m) (h : R q l) :
    AnswersAs q m l := fun calls =>
  let ⟨results, final⟩ := rep.run h calls
  ⟨results, rep.toList final⟩

end QueueSupply
