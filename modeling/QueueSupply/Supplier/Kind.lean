import QueueSupply.Config.Basic
import QueueSupply.Queue.Any

set_option autoImplicit false

namespace QueueSupply

inductive SupplierKind
  | empty
  | one
  | xs
  | small
  | xsUnbounded
  | smallUnbounded
  | bounded (size : UInt64)
  | unboundedLinked (linkSize : UInt64)
  | unboundedMultiProducer
  deriving DecidableEq

namespace SupplierKind

def build {E : Type} (c : Config) : SupplierKind → AnyQueue E
  | .empty => .null ⟨⟩
  | .one => .slot .empty
  | .xs => .ring (.ofCapacity c.xs.toNat)
  | .small => .ring (.ofCapacity c.small.toNat)
  | .xsUnbounded => .chain (.ofLinkSize c.xs)
  | .smallUnbounded => .chain (.ofLinkSize c.small)
  | .bounded size => .ring (.ofCapacity size.toNat)
  | .unboundedLinked linkSize => .chain (.ofLinkSize linkSize)
  | .unboundedMultiProducer => .inbox .empty

instance : Describe SupplierKind where
  describe
    | .empty => "Empty"
    | .one => "One"
    | .xs => "Xs"
    | .small => "Small"
    | .xsUnbounded => "XsUnbounded"
    | .smallUnbounded => "SmallUnbounded"
    | .bounded size => describeVariant "Bounded" (describe size)
    | .unboundedLinked linkSize => describeVariant "UnboundedLinked" (describe linkSize)
    | .unboundedMultiProducer => "UnboundedMultiProducer"

end SupplierKind

end QueueSupply
