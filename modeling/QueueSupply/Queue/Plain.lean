import QueueSupply.Buffer.Basic

set_option autoImplicit false

namespace QueueSupply

structure PlainQueue (E : Type) where
  contents : List E
  deriving DecidableEq

namespace PlainQueue

variable {E : Type}

def empty : PlainQueue E := ⟨[]⟩

instance : Buffer (PlainQueue E) E where
  toList q := q.contents
  len q := q.contents.length
  capacityClass _ := .unbounded
  offer q e := (.ok (), ⟨q.contents ++ [e]⟩)
  poll q := (q.contents.head?, ⟨q.contents.tail⟩)
  peek q := (q.contents.head?, q)
  clear _ := empty

end PlainQueue

end QueueSupply
