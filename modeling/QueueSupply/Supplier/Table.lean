import QueueSupply.Supplier.Kind

set_option autoImplicit false

namespace QueueSupply

structure SupplierTable where
  xs : UInt64
  small : UInt64
  deriving DecidableEq

namespace SupplierTable

def maxBounded : UInt64 := 10000000

def minBounded : UInt64 := 8

def unboundedRequest : UInt64 := 18446744073709551615

def ofConfig (c : Config) : SupplierTable := ⟨c.xs, c.small⟩

def resolve (t : SupplierTable) (requested : UInt64) : SupplierKind :=
  if requested = unboundedRequest then .smallUnbounded
  else if requested = t.xs then .xs
  else if requested = t.small then .small
  else if requested = 1 then .one
  else if requested = 0 then .empty
  else
    let adjusted := Config.atLeast minBounded requested
    if maxBounded < adjusted then .smallUnbounded else .bounded adjusted

def resolveLinked (t : SupplierTable) (linkSize : UInt64) : SupplierKind :=
  if linkSize = t.xs then .xsUnbounded
  else if linkSize = unboundedRequest ∨ linkSize = t.small then .smallUnbounded
  else .unboundedLinked linkSize

instance : Describe SupplierTable where
  describe t :=
    describeRecord "SupplierTable"
      [("xs_buffer_size", describe t.xs), ("small_buffer_size", describe t.small)]

end SupplierTable

end QueueSupply
