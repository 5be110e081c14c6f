import QueueSupply.Queue.Chain
import QueueSupply.Queue.Inbox
import QueueSupply.Queue.Null
import QueueSupply.Queue.Plain
import QueueSupply.Queue.Ring
import QueueSupply.Queue.Scripted
import QueueSupply.Queue.Slot
import QueueSupply.Queue.Stack
import QueueSupply.Queue.Waiting

set_option autoImplicit false

namespace QueueSupply

inductive AnyQueue (E : Type)
  | null (q : NullQueue E)
  | slot (q : SlotQueue E)
  | ring (q : RingQueue E)
  | waiting (q : WaitingQueue E)
  | chain (q : ChainQueue E)
  | inbox (q : InboxQueue E)
  | plain (q : PlainQueue E)
  | stack (q : StackQueue E)
  | scripted (q : ScriptedQueue E)

namespace AnyQueue

variable {E : Type}

def view {α : Type} (f : (Q : Type) → [Buffer Q E] → Q → α) : AnyQueue E → α
  | .null q => f _ q
  | .slot q => f _ q
  | .ring q => f _ q
  | .waiting q => f _ q
  | .chain q => f _ q
  | .inbox q => f _ q
  | .plain q => f _ q
  | .stack q => f _ q
  | .scripted q => f _ q

def act {α : Type} (f : (Q : Type) → [Buffer Q E] → Q → α × Q) : AnyQueue E → α × AnyQueue E
  | .null q => Prod.map id .null (f _ q)
  | .slot q => Prod.map id .slot (f _ q)
  | .ring q => Prod.map id .ring (f _ q)
  | .waiting q => Prod.map id .waiting (f _ q)
  | .chain q => Prod.map id .chain (f _ q)
  | .inbox q => Prod.map id .inbox (f _ q)
  | .plain q => Prod.map id .plain (f _ q)
  | .stack q => Prod.map id .stack (f _ q)
  | .scripted q => Prod.map id .scripted (f _ q)

instance : Buffer (AnyQueue E) E where
  toList := view fun _ => Buffer.toList
  len := view fun _ => Buffer.len
  isEmpty := view fun _ => Buffer.isEmpty
  capacityClass := view fun _ => Buffer.capacityClass
  remaining := view fun _ => Buffer.remaining
  offer q e := q.act fun _ _ q => Buffer.offer q e
  offerAll q es := q.act fun _ _ q => Buffer.offerAll q es
  poll := act fun _ => Buffer.poll
  peek := act fun _ => Buffer.peek
  element := act fun _ => Buffer.element
  remove := act fun _ => Buffer.remove
  clear q := (q.act fun _ _ q => ((), Buffer.clear q)).2

/-- How many offers, at most, the queue turns down while it has room. -/
def refusals : AnyQueue E → Nat
  | .scripted q => q.script.length
  | _ => 0

end AnyQueue

end QueueSupply
