import QueueSupply.Buffer.Basic
import QueueSupply.Queue.Timeout

set_option autoImplicit false

/-!
The queue with one slot, for one producer and one consumer. A word guards the slot: its low two
bits are the phase and the rest counts the readers that are looking at a full slot. The producer
takes the slot from empty through writing to full, the consumer from full through taking to empty.

Each access to the word or to the slot is one step. A call that nothing interrupts is the sequence
of its steps. Looking at an empty slot or emptying it is no failure, and bulk inserts are refused.
-/

namespace QueueSupply

structure SlotQueue (E : Type) where
  word : Nat
  slot : Option E
  deriving DecidableEq

namespace SlotQueue

variable {E : Type}

def emptyWord : Nat := 0

def writingWord : Nat := 1

def fullWord : Nat := 2

def takingWord : Nat := 3

def readerUnit : Nat := 4

def phaseOf (word : Nat) : Nat := word % 4

def readersOf (word : Nat) : Nat := word / 4

def empty : SlotQueue E := ⟨emptyWord, none⟩

def exchange? (q : SlotQueue E) (old new : Nat) : Option (SlotQueue E) :=
  if q.word = old then some { q with word := new } else none

def beginWrite? (q : SlotQueue E) : Option (SlotQueue E) := q.exchange? emptyWord writingWord

def write (q : SlotQueue E) (e : E) : SlotQueue E := { q with slot := some e }

def publish (q : SlotQueue E) : SlotQueue E := { q with word := fullWord }

def beginTake? (q : SlotQueue E) : Option (SlotQueue E) := q.exchange? fullWord takingWord

def vacate (q : SlotQueue E) : SlotQueue E := { q with slot := none }

def release (q : SlotQueue E) : SlotQueue E := { q with word := emptyWord }

/-- Adds a reader to a word that has been seen to be in the full phase. -/
def enter? (q : SlotQueue E) (seen : Nat) : Option (SlotQueue E) :=
  q.exchange? seen (seen + readerUnit)

def leave (q : SlotQueue E) : SlotQueue E := { q with word := q.word - readerUnit }

def isOccupied (q : SlotQueue E) : Bool :=
  phaseOf q.word == fullWord || phaseOf q.word == takingWord

def offer (q : SlotQueue E) (e : E) : Inserted E × SlotQueue E :=
  match q.beginWrite? with
  | none => (.error (.full e), q)
  | some q => (.ok (), (q.write e).publish)

def poll (q : SlotQueue E) : Option E × SlotQueue E :=
  match q.beginTake? with
  | none => (none, q)
  | some q => (q.slot, q.vacate.release)

def peek (q : SlotQueue E) : Option E × SlotQueue E :=
  if phaseOf q.word = fullWord then
    match q.enter? q.word with
    | none => (none, q)
    | some q => (q.slot, q.leave)
  else (none, q)

instance : Buffer (SlotQueue E) E where
  toList q := q.slot.toList
  len q := if q.isOccupied then 1 else 0
  capacityClass _ := .exact 1
  offer := offer
  offerAll q es := (.error (.rejected es), q)
  poll := poll
  peek := peek
  element q := Prod.map .ok id q.peek
  remove q := Prod.map .ok id q.poll
  clear q := q.poll.2

def contains [DecidableEq E] (q : SlotQueue E) (e : E) : Bool × SlotQueue E :=
  Prod.map (· == some e) id q.peek

/-- Tries until the slot is free; none if it is taken and nobody is there to free it. -/
def put? (q : SlotQueue E) (e : E) : Option (SlotQueue E) :=
  match q.offer e with
  | (.ok (), q) => some q
  | (.error _, _) => none

def putWithin? (q : SlotQueue E) (e : E) : Timeout → Option (Inserted E × SlotQueue E)
  | .beyondClock => (q.put? e).map (.ok (), ·)
  | .millis _ =>
    match q.offer e with
    | (.ok (), q) => some (.ok (), q)
    | (.error _, q) => some (.error (.timeout e), q)

instance : Describe (SlotQueue E) where
  describe q := describeRecord "OneSlotQueue" [("occupied", describe q.isOccupied)]

end SlotQueue

end QueueSupply
