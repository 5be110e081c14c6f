import QueueSupply.Proofs.Fifo.Steps

set_option autoImplicit false

namespace QueueSupply

variable {E : Type}

namespace Fifo

variable {l : Fifo E}

def Fits (l : Fifo E) : Prop := ∀ n, l.bound = some n → l.items.length ≤ n

theorem fits_fresh (bound : Option Nat) : (fresh bound : Fifo E).Fits :=
  fun _ _ => Nat.zero_le _

theorem Fits.append {es : List E} (fits : l.Fits) (room : ∀ r, l.room = some r → es.length ≤ r) :
    (l.append es).Fits := by
  intro n bound
  have within := fits n bound
  have short := room (n - l.items.length) (by rw [Fifo.room, show l.bound = some n from bound]; rfl)
  change (l.items ++ es).length ≤ n
  rw [List.length_append]
  omega

theorem Fits.pop (fits : l.Fits) : l.pop.Fits := by
  intro n bound
  have within := fits n bound
  change l.items.tail.length ≤ n
  rw [List.length_tail]
  omega

theorem fits_wipe : l.wipe.Fits := fun _ _ => Nat.zero_le _

theorem isFull_of_room {r : Nat} (room : l.room = some r) : l.isFull = (r == 0) := by
  rw [isFull, room]
  rfl

theorem Fits.offer (fits : l.Fits) (e : E) : (l.offer e).2.Fits := by
  rw [Fifo.offer]
  cases full : l.isFull with
  | true => exact fits
  | false =>
    apply fits.append
    intro r room
    rw [isFull_of_room room, beq_eq_false_iff_ne] at full
    exact Nat.one_le_iff_ne_zero.mpr full

theorem Fits.offerAll (fits : l.Fits) (es : List E) : (l.offerAll es).2.Fits := by
  apply fits.append
  intro r room
  have admits : l.admitted es.length = min r es.length := by rw [admitted, room]
  rw [List.length_take, admits]
  omega

theorem room_append {r : Nat} (room : l.room = some (r + 1)) (e : E) :
    (l.append [e]).room = some r := by
  cases bound : l.bound with
  | none => simp [Fifo.room, bound] at room
  | some n =>
    simp only [Fifo.room, bound, Option.map_some, Option.some.injEq, append,
      List.length_append, List.length_singleton] at room ⊢
    omega

end Fifo

/-- What offers of single elements answer when there is room for the first `room` of them. -/
def offerAnswers (room : Nat) (es : List E) : List (Result E) :=
  ((es.take room).map fun _ => .inserted (.ok ())) ++
    (es.drop room).map fun e => .inserted (.error (.full e))

namespace Manner

open Fifo

theorem answer_fits (m : Manner) {l : Fifo E} (fits : l.Fits) (c : Call E) :
    (m.answer l c).2.Fits := by
  cases c with
  | offer e => exact fits.offer e
  | offerAll es =>
    change (m.offerAll l es).2.Fits
    rw [offerAll]
    split
    · exact fits.offerAll es
    · exact fits
  | poll | remove | next => exact fits.pop
  | clear | count | drain => exact fits_wipe
  | peek | element | len | isEmpty | capacityClass | remaining | capacity => exact fits

theorem run_fits (m : Manner) (calls : List (Call E)) :
    ∀ {l : Fifo E}, l.Fits → (m.run l calls).2.Fits := by
  induction calls with
  | nil => exact fun fits => fits
  | cons c calls ih => exact fun fits => ih (m.answer_fits fits c)

/-- One offer uses up one place, and after the last place each is turned down. -/
theorem run_offers (m : Manner) (es : List E) :
    ∀ {l : Fifo E} {room : Nat}, l.room = some room →
      m.run l (es.map .offer) = (offerAnswers room es, l.append (es.take room)) := by
  induction es with
  | nil =>
    intro l room _
    simp [run, offerAnswers]
  | cons e es ih =>
    intro l room has
    have full := isFull_of_room has
    cases room with
    | zero =>
      have turned_down : m.answer l (.offer e) = (.inserted (.error (.full e)), l) := by
        simp [answer, Fifo.offer, full]
      rw [List.map_cons, run, turned_down, ih has]
      simp [offerAnswers]
    | succ r =>
      have taken_in : m.answer l (.offer e) = (.inserted (.ok ()), l.append [e]) := by
        simp [answer, Fifo.offer, full]
      rw [List.map_cons, run, taken_in, ih (room_append has e)]
      simp [offerAnswers]

end Manner

namespace QueueType

/-- After any steps a queue of the type still stands for a list with the type's bound. -/
theorem represented_after [DecidableEq E] [Ordered E] (type : QueueType)
    (steps : List (QueueStep E)) : ∃ (R : AnyQueue E → Fifo E → Prop) (l : Fifo E),
      Represents R type.manner ∧ R (QueueStep.after type.fresh steps) l ∧ l.bound = type.bound ∧
        l.Fits := by
  obtain ⟨R, rep, start⟩ := type.represented (E := E)
  obtain ⟨calls, same⟩ := QueueStep.leads_after type.fresh steps
  rw [same]
  exact ⟨R, _, rep, (rep.run start calls).2, Manner.run_bound _ _ calls,
    type.manner.run_fits calls (Fifo.fits_fresh type.bound)⟩

def roomIn : QueueType → AnyQueue E → Int
  | .waiting _, q => Buffer.capacity q
  | _, q => Buffer.capacity q - Buffer.len q

theorem roomIn_eq (type : QueueType) (q : AnyQueue E) : type.roomIn q =
    if type.manner.tellsRoom then Buffer.capacity q else Buffer.capacity q - Buffer.len q := by
  cases type <;> rfl

/-- A report that is a number tells the room for further elements, and one that stands for no bound
means that fewer elements than that are never too many. -/
structure ReportsRoom (type : QueueType) (q : AnyQueue E) : Prop where
  number : Buffer.capacity q ≠ Capacity.unbounded → ∃ room : Nat, (room : Int) = type.roomIn q ∧
    ∀ es : List E, (Buffer.run q (es.map .offer)).1 = offerAnswers room es ∧
      Buffer.toList (Buffer.run q (es.map .offer)).2 = Buffer.toList q ++ es.take room
  noBound : Buffer.capacity q = Capacity.unbounded → (Buffer.len q : Int) < Capacity.unbounded →
    ∀ e : E, (Buffer.offer q e).1 = .ok ()

theorem reported_eq {n : Nat} (number : Fifo.reported (some n) ≠ Capacity.unbounded) :
    Fifo.reported (some n) = n := by
  simp only [Fifo.reported, Capacity.unbounded] at number ⊢
  omega

section Report

variable {R : AnyQueue E → Fifo E → Prop} {type : QueueType} {q : AnyQueue E} {l : Fifo E}

theorem exists_room (rep : Represents R type.manner) (h : R q l) (fits : l.Fits)
    (number : Buffer.capacity q ≠ Capacity.unbounded) :
    ∃ room : Nat, (room : Int) = type.roomIn q ∧ l.room = some room := by
  have capacity := rep.capacity h
  rw [Manner.capacity] at capacity
  rw [roomIn_eq, rep.len h]
  cases told : type.manner.tellsRoom with
  | true =>
    rw [told, if_pos rfl] at capacity
    rw [capacity] at number
    cases room : l.room with
    | none => exact absurd (room ▸ rfl) number
    | some r =>
      rw [room] at number capacity
      exact ⟨r, by rw [if_pos rfl, capacity, reported_eq number], rfl⟩
  | false =>
    rw [told, if_neg Bool.false_ne_true] at capacity
    rw [capacity] at number
    cases bound : l.bound with
    | none => exact absurd (bound ▸ rfl) number
    | some n =>
      have within := fits n bound
      rw [bound] at number capacity
      refine ⟨n - l.items.length, ?_, by rw [Fifo.room, bound]; rfl⟩
      rw [if_neg Bool.false_ne_true, capacity, reported_eq number]
      omega

theorem isFull_of_noBound (rep : Represents R type.manner) (h : R q l)
    (noBound : Buffer.capacity q = Capacity.unbounded)
    (few : (Buffer.len q : Int) < Capacity.unbounded) : l.isFull = false := by
  rw [rep.len h, Capacity.unbounded] at few
  rw [rep.capacity h, Manner.capacity] at noBound
  cases bound : l.bound with
  | none => simp [Fifo.isFull, Fifo.room, bound]
  | some n =>
    have room : l.room = some (n - l.items.length) := by rw [Fifo.room, bound]; rfl
    rw [Fifo.isFull_of_room room, beq_eq_false_iff_ne]
    rw [room, bound, Capacity.unbounded] at noBound
    split at noBound
    · simp only [Fifo.reported] at noBound
      omega
    · simp only [Fifo.reported] at noBound
      omega

theorem reportsRoom (rep : Represents R type.manner) (h : R q l) (fits : l.Fits) :
    type.ReportsRoom q where
  number number := by
    obtain ⟨room, told, has⟩ := exists_room rep h fits number
    refine ⟨room, told, ?_⟩
    intro es
    obtain ⟨answers, held⟩ := rep.run h (es.map .offer)
    rw [type.manner.run_offers es has] at answers held
    exact ⟨answers, by rw [rep.toList held, rep.toList h]; rfl⟩
  noBound noBound few e := by
    have accepted := (rep.offer h e).1
    rw [Fifo.offer, isFull_of_noBound rep h noBound few] at accepted
    exact accepted

end Report

end QueueType

/-- After any steps on a new queue of any type its report tells how much it takes in. In the waiting
queue what is held and what is told to be left make up the capacity, and the other types always
report the same. -/
theorem capacity_tells_room [DecidableEq E] [Ordered E] (type : QueueType)
    (steps : List (QueueStep E)) :
    type.ReportsRoom (QueueStep.after type.fresh steps) ∧
      (∀ n, type = .waiting n → ∃ left,
        Buffer.remaining (QueueStep.after (type.fresh : AnyQueue E) steps) = some left ∧
          Buffer.len (QueueStep.after (type.fresh : AnyQueue E) steps) + left = n) ∧
      ((∀ n, type ≠ .waiting n) →
        Buffer.capacity (QueueStep.after (type.fresh : AnyQueue E) steps) =
          Buffer.capacity (type.fresh : AnyQueue E)) := by
  obtain ⟨R, l, rep, now, bound, fits⟩ := type.represented_after steps
  refine ⟨QueueType.reportsRoom rep now fits, ?_, ?_⟩
  · rintro n rfl
    refine ⟨n - l.items.length, ?_, ?_⟩
    · rw [rep.remaining now, Manner.remaining, Fifo.room, bound]
      rfl
    · have within := fits n bound
      rw [rep.len now]
      omega
  · intro other
    have quiet : type.manner.tellsRoom = false := by
      cases type with
      | waiting n => exact absurd rfl (other n)
      | null | slot | ring | chain | inbox | plain => rfl
    obtain ⟨S, rep', start⟩ := type.represented (E := E)
    rw [rep.capacity now, rep'.capacity start, Manner.capacity, Manner.capacity, quiet, bound]
    rfl

example : (Buffer.run (QueueStep.after ((QueueType.waiting 2).fresh : AnyQueue Int) [.put 1 none])
    [.offer 2, .offer 3]).1 = offerAnswers 1 [2, 3] := rfl

end QueueSupply
