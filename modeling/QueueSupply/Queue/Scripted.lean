import QueueSupply.Buffer.Basic

set_option autoImplicit false

/-!
A queue that follows a script: each offer is answered by the next cue, and what it says about its
length and its bound may be fixed in advance. It shows how the calls with defaults behave on a
queue that fails in every way an offer can.
-/

namespace QueueSupply

inductive Cue (E : Type)
  | store
  | full
  | timeout
  | noSuchElement
  | rejected (es : List E)
  deriving DecidableEq

structure ScriptedQueue (E : Type) where
  contents : List E
  script : List (Cue E)
  bound : CapacityClass
  fixedLen : Option Nat
  fixedRemaining : Option Nat
  deriving DecidableEq

namespace ScriptedQueue

variable {E : Type}

/-- Offers are stored once the script is used up. -/
def offer (q : ScriptedQueue E) (e : E) : Inserted E × ScriptedQueue E :=
  let rest := { q with script := q.script.tail }
  match q.script.head?.getD .store with
  | .store => (.ok (), { rest with contents := q.contents ++ [e] })
  | .full => (.error (.full e), rest)
  | .timeout => (.error (.timeout e), rest)
  | .noSuchElement => (.error .noSuchElement, rest)
  | .rejected es => (.error (.rejected es), rest)

instance : Buffer (ScriptedQueue E) E where
  toList q := q.contents
  len q := q.fixedLen.getD q.contents.length
  capacityClass q := q.bound
  remaining q := q.fixedRemaining
  offer := offer
  poll q := (q.contents.head?, { q with contents := q.contents.tail })
  peek q := (q.contents.head?, q)

end ScriptedQueue

end QueueSupply
