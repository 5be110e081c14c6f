import QueueSupply.Concurrent.Schedule
import QueueSupply.Queue.Inbox

set_option autoImplicit false

/-!
The queue for many producers between any number of producers and callers of the consumer's side. An
offer is two events, counting its element and sending it. A consumer's call locks, removes, takes
the removal off the counter and unlocks, each an event of its own; asking for the length is one
event without the lock. The events of the parties may come in any order.

An element is marked with the number of its producer. Beside the queue the machine keeps the
elements sent, those that have left with whether they were thrown away, and what the calls have
returned. The parties do not read these records.
-/

namespace QueueSupply

namespace InboxMachine

/-- An element and the number of the producer that offers it. -/
abbrev Marked (E : Type) := Nat × E

structure Producer (E : Type) where
  pending : List E
  /-- The element that is counted and not yet sent. -/
  sending : Option E
  deriving DecidableEq

inductive Ask
  | poll
  | peek
  | clear
  | len
  | next
  deriving DecidableEq

inductive Returned (E : Type)
  | taken (e : Option (Marked E))
  | shown (e : Option (Marked E))
  | cleared
  | len (n : Nat)
  deriving DecidableEq

inductive Locked
  | poll
  | peek
  | clear
  deriving DecidableEq

inductive Consumer (E : Type)
  | idle
  /-- About to ask whether the queue is empty before a poll. -/
  | asking
  /-- About to lock. -/
  | locking (call : Locked)
  /-- About to remove the head, for good if the call is to clear. -/
  | removing (clears : Bool)
  /-- About to take a removal off the counter. -/
  | discounting (clears : Bool) (got : Marked E)
  /-- About to fill the cell. -/
  | showing
  /-- About to unlock and return. -/
  | unlocking (r : Returned E)
  deriving DecidableEq

inductive Event
  /-- Producer `i` counts its next element, or sends the one it has counted. -/
  | offer (i : Nat)
  /-- Consumer `i` begins a call. -/
  | call (i : Nat) (ask : Ask)
  /-- Consumer `i` goes on. -/
  | consumer (i : Nat)
  deriving DecidableEq

end InboxMachine

structure InboxMachine (E : Type) where
  queue : InboxQueue (InboxMachine.Marked E)
  holder : Option Nat
  producers : List (InboxMachine.Producer E)
  consumers : List (InboxMachine.Consumer E)
  sent : List (InboxMachine.Marked E)
  /-- The elements that have left, in order, each with whether it was thrown away. -/
  gone : List (InboxMachine.Marked E × Bool)
  returned : List (Nat × InboxMachine.Returned E)

namespace InboxMachine

variable {E : Type}

def start (lists : List (List E)) (consumers : Nat) : InboxMachine E where
  queue := .empty
  holder := none
  producers := lists.map fun es => ⟨es, none⟩
  consumers := List.replicate consumers .idle
  sent := []
  gone := []
  returned := []

/-- The offers between counting and sending. -/
def announced (m : InboxMachine E) : Nat := m.producers.countP fun p => p.sending.isSome

def Consumer.isDiscounting : Consumer E → Bool
  | .discounting _ _ => true
  | _ => false

/-- The removals that the counter still counts. -/
def uncounted (m : InboxMachine E) : Nat := m.consumers.countP Consumer.isDiscounting

def held (m : InboxMachine E) : List (Marked E) := Buffer.toList m.queue

def setConsumer (m : InboxMachine E) (i : Nat) (c : Consumer E) : InboxMachine E :=
  { m with consumers := m.consumers.set i c }

def finish (m : InboxMachine E) (i : Nat) (r : Returned E) : InboxMachine E :=
  { m.setConsumer i .idle with returned := m.returned ++ [(i, r)] }

def stepProducer? (m : InboxMachine E) (i : Nat) : Option (InboxMachine E) :=
  match m.producers[i]? with
  | none => none
  | some ⟨pending, some e⟩ =>
    some { m with
      queue := m.queue.send (i, e)
      producers := m.producers.set i ⟨pending, none⟩
      sent := m.sent ++ [(i, e)] }
  | some ⟨e :: pending, none⟩ =>
    some { m with
      queue := m.queue.announce
      producers := m.producers.set i ⟨pending, some e⟩ }
  | some ⟨[], none⟩ => none

def begin? (m : InboxMachine E) (i : Nat) (ask : Ask) : Option (InboxMachine E) :=
  match m.consumers[i]? with
  | some .idle =>
    match ask with
    | .poll => some (m.setConsumer i (.locking .poll))
    | .peek => some (m.setConsumer i (.locking .peek))
    | .clear => some (m.setConsumer i (.locking .clear))
    | .len => some (m.finish i (.len (Buffer.len m.queue)))
    | .next => some (m.setConsumer i .asking)
  | _ => none

def Locked.first : Locked → Consumer E
  | .poll => .removing false
  | .peek => .showing
  | .clear => .removing true

def stepConsumer? (m : InboxMachine E) (i : Nat) : Option (InboxMachine E) :=
  match m.consumers[i]? with
  | none => none
  | some .idle => none
  | some .asking =>
    if Buffer.isEmpty m.queue then some (m.finish i (.taken none))
    else some (m.setConsumer i (.locking .poll))
  | some (.locking call) =>
    match m.holder with
    | some _ => none
    | none => some { m.setConsumer i call.first with holder := some i }
  | some (.removing clears) =>
    match m.queue.takeHead with
    | (none, q) =>
      some { m.setConsumer i (.unlocking (if clears then .cleared else .taken none)) with
        queue := q }
    | (some e, q) =>
      some { m.setConsumer i (.discounting clears e) with
        queue := q
        gone := m.gone ++ [(e, clears)] }
  | some (.discounting clears got) =>
    some { m.setConsumer i (if clears then .removing true else .unlocking (.taken (some got))) with
      queue := m.queue.discount }
  | some .showing =>
    some { m.setConsumer i (.unlocking (.shown m.queue.fillCell.cell)) with
      queue := m.queue.fillCell }
  | some (.unlocking r) => some { m.finish i r with holder := none }

def step? (m : InboxMachine E) : Event → Option (InboxMachine E)
  | .offer i => m.stepProducer? i
  | .call i ask => m.begin? i ask
  | .consumer i => m.stepConsumer? i

end InboxMachine

end QueueSupply
