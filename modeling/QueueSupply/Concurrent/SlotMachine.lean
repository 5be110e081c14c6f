import QueueSupply.Concurrent.Schedule
import QueueSupply.Queue.Slot

set_option autoImplicit false

/-!
The queue with one slot between one producer, one consumer and any number of readers. Every access
to the word or to the slot is one event, and the events of the parties may come in any order. A
weak exchange may fail although the word is the expected one.

Beside the queue the machine keeps what the calls have returned: the outcomes of the insertions,
the elements accepted and taken, and for each finished poll or look also the element that was in
the slot for it. The parties do not read these records.
-/

namespace QueueSupply

namespace SlotMachine

/-- What a producer does about a slot that is not empty. -/
inductive Insist
  /-- Hands the element back at once. -/
  | once
  /-- Tries again. -/
  | always
  /-- Tries again until the deadline. -/
  | untilDeadline
  deriving DecidableEq

inductive Producer (E : Type)
  | idle
  | trying (insist : Insist) (e : E)
  | writing (e : E)
  | publishing (e : E)
  deriving DecidableEq

/-- A consumer remembers the element that was accepted and not yet taken when its call began. -/
inductive Consumer (E : Type)
  | idle
  | loading (due : Option E)
  | exchanging (due : Option E)
  | moving (due : Option E)
  | releasing (due got : Option E)
  deriving DecidableEq

/-- A reader remembers the element that was accepted and not yet taken when it entered. -/
inductive Reader (E : Type)
  | idle
  | loading
  | entering (seen : Nat)
  | reading (due : Option E)
  | leaving (due got : Option E)
  deriving DecidableEq

inductive Event (E : Type)
  /-- The producer begins to insert `e`. -/
  | insert (insist : Insist) (e : E)
  /-- The producer goes on; its deadline may have passed. -/
  | producer (expired : Bool)
  /-- The consumer begins to take. -/
  | take
  /-- The consumer goes on; a weak exchange of it may fail for no reason. -/
  | consumer (spurious : Bool)
  /-- Reader `i` begins to look. -/
  | look (i : Nat)
  /-- Reader `i` goes on; a weak exchange of it may fail for no reason. -/
  | reader (i : Nat) (spurious : Bool)
  /-- Somebody asks for the length. -/
  | measure

end SlotMachine

structure SlotMachine (E : Type) where
  queue : SlotQueue E
  producer : SlotMachine.Producer E
  consumer : SlotMachine.Consumer E
  readers : List (SlotMachine.Reader E)
  inserts : List (Inserted E)
  accepted : List E
  taken : List E
  /-- For each finished poll the element due to it and what it returned. -/
  polls : List (Option E × Option E)
  /-- For each finished look its reader, the element due to it and what it returned. -/
  looks : List (Nat × Option E × Option E)

namespace SlotMachine

variable {E : Type}

def start (q : SlotQueue E) (readers : Nat) : SlotMachine E where
  queue := q
  producer := .idle
  consumer := .idle
  readers := List.replicate readers .idle
  inserts := []
  accepted := q.slot.toList
  taken := []
  polls := []
  looks := []

/-- The element that has been accepted and not yet been taken. -/
def due (m : SlotMachine E) : Option E := (m.accepted.drop m.taken.length).head?

def Reader.isInside : Reader E → Bool
  | .reading _ => true
  | .leaving _ _ => true
  | _ => false

def inside (m : SlotMachine E) : Nat := m.readers.countP Reader.isInside

def refuse (m : SlotMachine E) (err : QueueError E) : SlotMachine E :=
  { m with producer := .idle, inserts := m.inserts ++ [.error err] }

def stepProducer? (m : SlotMachine E) (expired : Bool) : Option (SlotMachine E) :=
  match m.producer with
  | .idle => none
  | .trying insist e =>
    match m.queue.beginWrite? with
    | some q => some { m with queue := q, producer := .writing e }
    | none =>
      match insist, expired with
      | .once, _ => some (m.refuse (.full e))
      | .untilDeadline, true => some (m.refuse (.timeout e))
      | _, _ => some m
  | .writing e => some { m with queue := m.queue.write e, producer := .publishing e }
  | .publishing e =>
    some { m with
      queue := m.queue.publish
      producer := .idle
      inserts := m.inserts ++ [.ok ()]
      accepted := m.accepted ++ [e] }

/-- What the consumer does on seeing the word: it gives up unless the slot is full, and waits while
readers are inside. -/
def sawConsumer (m : SlotMachine E) (due : Option E) (word : Nat) : SlotMachine E :=
  if SlotQueue.phaseOf word ≠ SlotQueue.fullWord then
    { m with consumer := .idle, polls := m.polls ++ [(due, none)] }
  else if word ≠ SlotQueue.fullWord then { m with consumer := .loading due }
  else { m with consumer := .exchanging due }

def stepConsumer? (m : SlotMachine E) (spurious : Bool) : Option (SlotMachine E) :=
  match m.consumer with
  | .idle => none
  | .loading due => some (m.sawConsumer due m.queue.word)
  | .exchanging due =>
    match spurious, m.queue.beginTake? with
    | false, some q => some { m with queue := q, consumer := .moving due }
    | _, _ => some (m.sawConsumer due m.queue.word)
  | .moving due =>
    some { m with
      queue := m.queue.vacate
      consumer := .releasing due m.queue.slot
      taken := m.taken ++ m.queue.slot.toList }
  | .releasing due got =>
    some { m with
      queue := m.queue.release
      consumer := .idle
      polls := m.polls ++ [(due, got)] }

def setReader (m : SlotMachine E) (i : Nat) (r : Reader E) : SlotMachine E :=
  { m with readers := m.readers.set i r }

def sawReader (m : SlotMachine E) (i word : Nat) : SlotMachine E :=
  if SlotQueue.phaseOf word ≠ SlotQueue.fullWord then
    { m.setReader i .idle with looks := m.looks ++ [(i, none, none)] }
  else m.setReader i (.entering word)

def stepReader? (m : SlotMachine E) (i : Nat) (spurious : Bool) : Option (SlotMachine E) :=
  match m.readers[i]? with
  | none => none
  | some .idle => none
  | some .loading => some (m.sawReader i m.queue.word)
  | some (.entering seen) =>
    match spurious, m.queue.enter? seen with
    | false, some q => some { m.setReader i (.reading m.due) with queue := q }
    | _, _ => some (m.sawReader i m.queue.word)
  | some (.reading due) => some (m.setReader i (.leaving due m.queue.slot))
  | some (.leaving due got) =>
    some { m.setReader i .idle with queue := m.queue.leave, looks := m.looks ++ [(i, due, got)] }

def step? (m : SlotMachine E) : Event E → Option (SlotMachine E)
  | .insert insist e =>
    match m.producer with
    | .idle => some { m with producer := .trying insist e }
    | _ => none
  | .producer expired => m.stepProducer? expired
  | .take =>
    match m.consumer with
    | .idle => some { m with consumer := .loading m.due }
    | _ => none
  | .consumer spurious => m.stepConsumer? spurious
  | .look i =>
    match m.readers[i]? with
    | some .idle => some (m.setReader i .loading)
    | _ => none
  | .reader i spurious => m.stepReader? i spurious
  | .measure => some m

end SlotMachine

end QueueSupply
