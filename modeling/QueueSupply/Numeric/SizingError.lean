import QueueSupply.Text.Describe

set_option autoImplicit false

namespace QueueSupply

inductive SizingError
  | notPositive (x : Int64)
  | tooLarge (x : Int64)
  deriving DecidableEq

namespace SizingError

def argument : SizingError → Int64
  | .notPositive x => x
  | .tooLarge x => x

def message : SizingError → String
  | .notPositive x => "Invalid argument: " ++ describe x ++ " (must be greater than zero)"
  | .tooLarge x => "The next power of two of " ++ describe x ++ " does not fit in isize"

instance : Describe SizingError where
  describe
    | .notPositive x => describeVariant "InvalidArgument" (describe x)
    | .tooLarge x => describeVariant "Overflow" (describe x)

end SizingError

end QueueSupply
