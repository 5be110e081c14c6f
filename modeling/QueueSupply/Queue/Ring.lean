import QueueSupply.Buffer.Basic

set_option autoImplicit false

namespace QueueSupply

structure RingQueue (E : Type) where
  capacity : Nat
  contents : List E
  deriving DecidableEq

namespace RingQueue

variable {E : Type}

def ofCapacity (n : Nat) : RingQueue E := ⟨n, []⟩

def offer (q : RingQueue E) (e : E) : Inserted E × RingQueue E :=
  if q.capacity ≤ q.contents.length then (.error (.full e), q)
  else (.ok (), { q with contents := q.contents ++ [e] })

theorem offer_of_room {q : RingQueue E} (h : q.contents.length < q.capacity) (e : E) :
    q.offer e = (.ok (), { q with contents := q.contents ++ [e] }) :=
  if_neg (Nat.not_le.mpr h)

theorem offer_of_full {q : RingQueue E} (h : q.capacity ≤ q.contents.length) (e : E) :
    q.offer e = (.error (.full e), q) :=
  if_pos h

def poll (q : RingQueue E) : Option E × RingQueue E :=
  (q.contents.head?, { q with contents := q.contents.tail })

instance : Buffer (RingQueue E) E where
  toList q := q.contents
  len q := q.contents.length
  capacityClass q := .exact q.capacity
  offer := offer
  poll := poll
  peek q := (q.contents.head?, q)
  clear q := { q with contents := [] }

end RingQueue

end QueueSupply
