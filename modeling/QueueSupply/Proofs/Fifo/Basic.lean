import QueueSupply.Buffer.Call

set_option autoImplicit false

/-!
The list that queues are held against. It has a bound or none, takes elements in at its end while
fewer than the bound are held, and lets the first one go. Its answer to each call is said in terms
of the list alone: a bulk insert takes what fits and hands back the rest, a drain yields what is
held.

Some queue types differ from the list in a few answers. A manner says in which.
-/

namespace QueueSupply

structure Fifo (E : Type) where
  /-- The most elements that may be held, or none for no limit. -/
  bound : Option Nat
  items : List E

namespace Fifo

variable {E : Type}

def fresh (bound : Option Nat) : Fifo E := ⟨bound, []⟩

def append (l : Fifo E) (es : List E) : Fifo E := { l with items := l.items ++ es }

def pop (l : Fifo E) : Fifo E := { l with items := l.items.tail }

def wipe (l : Fifo E) : Fifo E := { l with items := [] }

def room (l : Fifo E) : Option Nat := l.bound.map (· - l.items.length)

def isFull (l : Fifo E) : Bool := l.room == some 0

def admitted (l : Fifo E) (n : Nat) : Nat :=
  match l.room with
  | some r => min r n
  | none => n

def offer (l : Fifo E) (e : E) : Inserted E × Fifo E :=
  if l.isFull then (.error (.full e), l) else (.ok (), l.append [e])

def offerAll (l : Fifo E) (es : List E) : Inserted E × Fifo E :=
  let n := l.admitted es.length
  (if n = es.length then .ok () else .error (.rejected (es.drop n)), l.append (es.take n))

def boundClass (l : Fifo E) : CapacityClass :=
  match l.bound with
  | some n => .exact n
  | none => .unbounded

def reported : Option Nat → Int
  | some n => min n 9223372036854775807
  | none => 9223372036854775807

@[simp] theorem append_nil (l : Fifo E) : l.append [] = l := by
  simp [append]

@[simp] theorem append_append (l : Fifo E) (xs ys : List E) :
    (l.append xs).append ys = l.append (xs ++ ys) := by
  simp [append]

theorem isFull_iff (l : Fifo E) :
    l.isFull = true ↔ ∃ n, l.bound = some n ∧ n ≤ l.items.length := by
  cases h : l.bound with
  | none => simp [isFull, room, h]
  | some n => simp [isFull, room, h, Nat.sub_eq_zero_iff_le]

theorem admitted_of_isFull {l : Fifo E} (h : l.isFull = true) (n : Nat) : l.admitted n = 0 := by
  have full : l.room = some 0 := by simpa [isFull] using h
  simp [admitted, full]

/-- An element that is taken in uses up one place. -/
theorem admitted_succ {l : Fifo E} (h : l.isFull = false) (e : E) (n : Nat) :
    l.admitted (n + 1) = (l.append [e]).admitted n + 1 := by
  cases hb : l.bound with
  | none => simp [admitted, room, append, hb]
  | some b =>
    have room : 0 < b - l.items.length := by
      simp only [isFull, Fifo.room, hb, Option.map_some, beq_eq_false_iff_ne] at h
      have : b - l.items.length ≠ 0 := fun eq => h (congrArg some eq)
      omega
    simp only [admitted, Fifo.room, append, hb, Option.map_some, List.length_append,
      List.length_singleton]
    omega

theorem offerAll_nil (l : Fifo E) : l.offerAll [] = (.ok (), l) := by
  have none_admitted : l.admitted 0 = 0 := by
    unfold admitted
    split <;> simp
  simp [offerAll, none_admitted]

theorem offerAll_cons_of_isFull {l : Fifo E} (h : l.isFull = true) (e : E) (es : List E) :
    l.offerAll (e :: es) = (.error (.rejected (e :: es)), l) := by
  simp [offerAll, admitted_of_isFull h]

theorem offerAll_cons_of_room {l : Fifo E} (h : l.isFull = false) (e : E) (es : List E) :
    l.offerAll (e :: es) = (l.append [e]).offerAll es := by
  simp [offerAll, admitted_succ h e]

end Fifo

/-- In which answers a queue differs from the list. -/
structure Manner where
  /-- Bulk inserts are taken; else each is refused as a whole. -/
  takesBulk : Bool
  /-- It is a failure to look at the head or to remove it when there is none. -/
  failsEmpty : Bool
  /-- The room left is told, and stands for the bound. -/
  tellsRoom : Bool

namespace Manner

variable {E : Type}

def plain : Manner := ⟨true, true, false⟩

def waiting : Manner := { plain with tellsRoom := true }

def slot : Manner := { plain with takesBulk := false, failsEmpty := false }

def null : Manner := { plain with takesBulk := false }

def offerAll (m : Manner) (l : Fifo E) (es : List E) : Inserted E × Fifo E :=
  if m.takesBulk then l.offerAll es else (.error (.rejected es), l)

def fetch (m : Manner) (l : Fifo E) : Fetched E :=
  match l.items with
  | e :: _ => .ok (some e)
  | [] => if m.failsEmpty then .error .noSuchElement else .ok none

def remaining (m : Manner) (l : Fifo E) : Option Nat := if m.tellsRoom then l.room else none

def capacity (m : Manner) (l : Fifo E) : Int :=
  Fifo.reported (if m.tellsRoom then l.room else l.bound)

def answer (m : Manner) (l : Fifo E) : Call E → Result E × Fifo E
  | .offer e => Prod.map .inserted id (l.offer e)
  | .offerAll es => Prod.map .inserted id (m.offerAll l es)
  | .poll => (.option l.items.head?, l.pop)
  | .peek => (.option l.items.head?, l)
  | .element => (.fetched (m.fetch l), l)
  | .remove => (.fetched (m.fetch l), l.pop)
  | .clear => (.cleared, l.wipe)
  | .len => (.number l.items.length, l)
  | .isEmpty => (.flag l.items.isEmpty, l)
  | .capacityClass => (.capacityClass l.boundClass, l)
  | .remaining => (.remaining (m.remaining l), l)
  | .capacity => (.capacity (m.capacity l), l)
  | .next => (.option l.items.head?, l.pop)
  | .count => (.number l.items.length, l.wipe)
  | .drain => (.items l.items, l.wipe)

def run (m : Manner) (l : Fifo E) : List (Call E) → List (Result E) × Fifo E
  | [] => ([], l)
  | c :: rest =>
    let now := m.answer l c
    let later := m.run now.2 rest
    (now.1 :: later.1, later.2)

theorem answer_bound (m : Manner) (l : Fifo E) (c : Call E) : (m.answer l c).2.bound = l.bound := by
  cases c with
  | offer e =>
    simp only [answer, Fifo.offer]
    split <;> rfl
  | offerAll es =>
    simp only [answer, offerAll]
    split <;> rfl
  | _ => rfl

theorem run_bound (m : Manner) (l : Fifo E) (calls : List (Call E)) :
    (m.run l calls).2.bound = l.bound := by
  induction calls generalizing l with
  | nil => rfl
  | cons c rest ih => exact (ih _).trans (answer_bound m l c)

end Manner

end QueueSupply
