import QueueSupply.Buffer.Basic

set_option autoImplicit false

namespace QueueSupply

structure NullQueue (E : Type)
  deriving DecidableEq

namespace NullQueue

variable {E : Type}

def elements (_ : NullQueue E) : List E := []

def contains (_ : NullQueue E) (_ : E) : Bool := false

instance : Buffer (NullQueue E) E where
  toList _ := []
  len _ := 0
  isEmpty _ := true
  capacityClass _ := .exact 0
  offer q e := (.error (.full e), q)
  offerAll q es := (.error (.rejected es), q)
  poll q := (none, q)
  peek q := (none, q)
  element q := (.error .noSuchElement, q)
  remove q := (.error .noSuchElement, q)
  clear q := q

instance : Describe (NullQueue E) := ⟨fun _ => describeRecord "EmptyQueue" []⟩

end NullQueue

end QueueSupply
