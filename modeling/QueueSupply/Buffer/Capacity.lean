import QueueSupply.Text.Describe

set_option autoImplicit false

/-!
How much a queue can hold: what a queue says about its bound, and the one number that stands for
it. The number is a signed 64-bit word, whose extremes stand for "no bound" and "cannot tell".
-/

namespace QueueSupply

inductive CapacityClass
  | exact (n : Nat)
  | unbounded
  | unknown
  deriving DecidableEq

namespace CapacityClass

def isUnbounded : CapacityClass → Bool
  | .unbounded => true
  | _ => false

def isKnown : CapacityClass → Bool
  | .unknown => false
  | _ => true

def toOption : CapacityClass → Option Nat
  | .exact n => some n
  | _ => none

instance : Describe CapacityClass where
  describe
    | .exact n => describeVariant "Exact" (describe n)
    | .unbounded => "Unbounded"
    | .unknown => "Unknown"

end CapacityClass

namespace Capacity

def unbounded : Int := 9223372036854775807

def unsure : Int := -9223372036854775808

/-- A size as a capacity; one that does not fit counts as unbounded. -/
def ofSize (n : Nat) : Int := if (n : Int) ≤ unbounded then n else unbounded

def ofReport (remaining : Option Nat) (bound : CapacityClass) : Int :=
  match remaining with
  | some n => ofSize n
  | none =>
    match bound with
    | .exact n => ofSize n
    | .unbounded => unbounded
    | .unknown => unsure

end Capacity

end QueueSupply
