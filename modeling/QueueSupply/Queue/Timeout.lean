set_option autoImplicit false

/-!
How long a waiting call may wait: some milliseconds, or so long that no clock can show the
deadline, which is to wait without one.
-/

namespace QueueSupply

inductive Timeout
  | millis (n : Nat)
  | beyondClock
  deriving DecidableEq

end QueueSupply
