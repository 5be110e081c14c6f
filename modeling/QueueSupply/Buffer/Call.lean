import QueueSupply.Buffer.Drain

set_option autoImplicit false

namespace QueueSupply

inductive Call (E : Type)
  | offer (e : E)
  | offerAll (es : List E)
  | poll
  | peek
  | element
  | remove
  | clear
  | len
  | isEmpty
  | capacityClass
  | remaining
  | capacity
  | next
  | count
  | drain

inductive Result (E : Type)
  | inserted (r : Inserted E)
  | option (e : Option E)
  | fetched (r : Fetched E)
  | cleared
  | number (n : Nat)
  | flag (b : Bool)
  | capacityClass (c : CapacityClass)
  | remaining (n : Option Nat)
  | capacity (n : Int)
  | items (es : List E)

namespace Buffer

variable {Q E : Type} [Buffer Q E]

def call (q : Q) : Call E → Result E × Q
  | .offer e => Prod.map .inserted id (offer q e)
  | .offerAll es => Prod.map .inserted id (offerAll q es)
  | .poll => Prod.map .option id (poll q)
  | .peek => Prod.map .option id (peek q)
  | .element => Prod.map .fetched id (element q)
  | .remove => Prod.map .fetched id (remove q)
  | .clear => (.cleared, clear q)
  | .len => (.number (len q), q)
  | .isEmpty => (.flag (isEmpty q), q)
  | .capacityClass => (.capacityClass (capacityClass q), q)
  | .remaining => (.remaining (remaining q), q)
  | .capacity => (.capacity (capacity q), q)
  | .next => Prod.map .option id (next q)
  | .count => Prod.map .number id (count q)
  | .drain => Prod.map .items id (drain q)

def run (q : Q) : List (Call E) → List (Result E) × Q
  | [] => ([], q)
  | c :: rest =>
    let now := call q c
    let later := run now.2 rest
    (now.1 :: later.1, later.2)

theorem run_append (q : Q) (calls later : List (Call E)) :
    (run q (calls ++ later)).2 = (run (run q calls).2 later).2 := by
  induction calls generalizing q with
  | nil => rfl
  | cons c calls ih => exact ih _

end Buffer

end QueueSupply
