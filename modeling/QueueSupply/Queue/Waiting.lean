import QueueSupply.Buffer.Basic
import QueueSupply.Queue.Timeout

set_option autoImplicit false

/-!
The bounded queue whose `put` and `take` wait for room or for an element. What is given here is
what a call does when no other party touches the queue meanwhile: a call that would wait for ever
has no outcome. There is no such queue of a capacity for which the buffer would be too large.
-/

namespace QueueSupply

structure WaitingQueue (E : Type) where
  capacity : Nat
  contents : List E
  deriving DecidableEq

namespace WaitingQueue

variable {E : Type}

def ofCapacity (n : Nat) : WaitingQueue E := ⟨n, []⟩

def maxBufferBytes : Nat := 9223372036854775807

/-- The buffer for all the elements is allocated at once, and none if it may not be that large. -/
def allocate? (elementBytes n : Nat) : Option (WaitingQueue E) :=
  if n * elementBytes ≤ maxBufferBytes then some (ofCapacity n) else none

theorem allocate?_of_fits {elementBytes n : Nat} (fits : n * elementBytes ≤ maxBufferBytes) :
    allocate? elementBytes n = some (ofCapacity n : WaitingQueue E) :=
  if_pos fits

theorem allocate?_eq_none_iff {elementBytes n : Nat} :
    (allocate? elementBytes n : Option (WaitingQueue E)) = none ↔
      maxBufferBytes < n * elementBytes := by
  simp [allocate?]

def isFull (q : WaitingQueue E) : Bool := decide (q.capacity ≤ q.contents.length)

def append (q : WaitingQueue E) (e : E) : WaitingQueue E :=
  { q with contents := q.contents ++ [e] }

def offer (q : WaitingQueue E) (e : E) : Inserted E × WaitingQueue E :=
  if q.isFull then (.error (.full e), q) else (.ok (), q.append e)

theorem isFull_eq_false {q : WaitingQueue E} (h : q.contents.length < q.capacity) :
    q.isFull = false :=
  decide_eq_false (Nat.not_le.mpr h)

theorem offer_of_room {q : WaitingQueue E} (h : q.contents.length < q.capacity) (e : E) :
    q.offer e = (.ok (), q.append e) := by
  simp [offer, isFull_eq_false h]

theorem offer_of_full {q : WaitingQueue E} (h : q.isFull = true) (e : E) :
    q.offer e = (.error (.full e), q) :=
  if_pos h

def poll (q : WaitingQueue E) : Option E × WaitingQueue E :=
  (q.contents.head?, { q with contents := q.contents.tail })

instance : Buffer (WaitingQueue E) E where
  toList q := q.contents
  len q := q.contents.length
  capacityClass q := .exact q.capacity
  remaining q := some (q.capacity - q.contents.length)
  offer := offer
  poll := poll
  peek q := (q.contents.head?, q)
  clear q := { q with contents := [] }

def put? (q : WaitingQueue E) (e : E) : Option (WaitingQueue E) :=
  if q.isFull then none else some (q.append e)

def putWithin? (q : WaitingQueue E) (e : E) : Timeout → Option (Inserted E × WaitingQueue E)
  | .beyondClock => (put? q e).map (.ok (), ·)
  | .millis _ =>
    if q.isFull then some (.error (.timeout e), q) else some (.ok (), q.append e)

def take? (q : WaitingQueue E) : Option (E × WaitingQueue E) :=
  match q.contents with
  | [] => none
  | e :: rest => some (e, { q with contents := rest })

def takeWithin? (q : WaitingQueue E) : Timeout → Option (Option E × WaitingQueue E)
  | .beyondClock => (take? q).map fun (e, q) => (some e, q)
  | .millis _ =>
    match q.contents with
    | [] => some (none, q)
    | e :: rest => some (some e, { q with contents := rest })

end WaitingQueue

end QueueSupply
