import QueueSupply.Text.Describe

set_option autoImplicit false

namespace QueueSupply

inductive QueueError (E : Type)
  | full (e : E)
  | timeout (e : E)
  | rejected (es : List E)
  | noSuchElement
  deriving DecidableEq

namespace QueueError

variable {E : Type}

def handedBack : QueueError E → List E
  | .full e => [e]
  | .timeout e => [e]
  | .rejected es => es
  | .noSuchElement => []

def message [Describe E] : QueueError E → String
  | .full e => "Failed to offer an element: " ++ describe e
  | .timeout e => "Timed out offering an element: " ++ describe e
  | .rejected es => "Failed to offer elements: " ++ describe es
  | .noSuchElement => "Failed to take an element: the queue is empty"

end QueueError

abbrev Inserted (E : Type) := Except (QueueError E) Unit

abbrev Fetched (E : Type) := Except (QueueError E) (Option E)

end QueueSupply
