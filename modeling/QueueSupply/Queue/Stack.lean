import QueueSupply.Buffer.Basic

set_option autoImplicit false

namespace QueueSupply

structure StackQueue (E : Type) where
  contents : List E
  deriving DecidableEq

namespace StackQueue

variable {E : Type}

def empty : StackQueue E := ⟨[]⟩

instance : Buffer (StackQueue E) E where
  toList q := q.contents
  len q := q.contents.length
  offer q e := (.ok (), ⟨e :: q.contents⟩)
  poll q := (q.contents.head?, ⟨q.contents.tail⟩)
  peek q := (q.contents.head?, q)

end StackQueue

end QueueSupply
