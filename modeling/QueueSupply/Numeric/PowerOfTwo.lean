import QueueSupply.Numeric.SizingError

set_option autoImplicit false

namespace QueueSupply

def bitLength (w : UInt64) : Nat := 64 - w.toBitVec.clz.toNat

def ceilingPowerOfTwo (x : Int64) : Except SizingError Int64 :=
  if x ≤ 0 then .error (.notPositive x)
  else
    let shift := bitLength (x - 1).toUInt64
    if 63 ≤ shift then .error (.tooLarge x) else .ok (1 <<< Int64.ofNat shift)

def bitCount (w : UInt64) : Nat := (List.range 64).countP w.toNat.testBit

def isPowerOfTwo (x : Int64) : Bool := decide (0 < x) && bitCount x.toUInt64 == 1

end QueueSupply
