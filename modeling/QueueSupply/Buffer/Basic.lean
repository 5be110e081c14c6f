import QueueSupply.Buffer.Capacity
import QueueSupply.Buffer.Error

set_option autoImplicit false

namespace QueueSupply

/-- Offers the elements from left to right and stops at the first failure, which hands back what
that offer handed back and the elements after it. -/
def offerInTurn {Q E : Type} (offer : Q → E → Inserted E × Q) : Q → List E → Inserted E × Q
  | q, [] => (.ok (), q)
  | q, e :: rest =>
    match offer q e with
    | (.ok (), q) => offerInTurn offer q rest
    | (.error err, q) => (.error (.rejected (err.handedBack ++ rest)), q)

def pollUpTo {Q E : Type} (poll : Q → Option E × Q) : Nat → Q → List E × Q
  | 0, q => ([], q)
  | limit + 1, q =>
    match poll q with
    | (none, q) => ([], q)
    | (some e, q) =>
      let later := pollUpTo poll limit q
      (e :: later.1, later.2)

def orNoSuchElement {E : Type} : Option E → Fetched E
  | some e => .ok (some e)
  | none => .error .noSuchElement

class Buffer (Q : Type) (E : outParam Type) where
  /-- The elements held, the next to be polled first. -/
  toList : Q → List E
  len : Q → Nat
  offer : Q → E → Inserted E × Q
  poll : Q → Option E × Q
  peek : Q → Option E × Q
  isEmpty : Q → Bool := fun q => len q == 0
  capacityClass : Q → CapacityClass := fun _ => .unknown
  remaining : Q → Option Nat := fun _ => none
  offerAll : Q → List E → Inserted E × Q := offerInTurn offer
  element : Q → Fetched E × Q := fun q => Prod.map orNoSuchElement id (peek q)
  remove : Q → Fetched E × Q := fun q => Prod.map orNoSuchElement id (poll q)
  clear : Q → Q := fun q => (pollUpTo poll ((toList q).length + 1) q).2

namespace Buffer

variable {Q E : Type} [Buffer Q E]

def nonEmpty (q : Q) : Bool := !isEmpty q

def capacity (q : Q) : Int := Capacity.ofReport (remaining q) (capacityClass q)

end Buffer

end QueueSupply
