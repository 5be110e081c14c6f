import QueueSupply.Concurrent.Schedule
import QueueSupply.Queue.Waiting

set_option autoImplicit false

/-!
The bounded queue whose calls wait, between any number of parties. Between locking and unlocking a
call looks at the contents and changes them or begins to wait, all in one event. A waiting party is
woken by a notification or, if it has a deadline, by its passing; then it locks and looks again. An
insertion and a taking notify before they unlock, a poll and a clearing after it. A notification of
one wakes one waiting party if there is one, a notification of all wakes every one.

Beside the queue the machine keeps the elements inserted, those that have left with whether they
were thrown away, and what the calls have returned. The parties do not read these records.
-/

namespace QueueSupply

namespace WaitingMachine

inductive Ask (E : Type)
  | put (e : E)
  | putWithin (e : E)
  | take
  | takeWithin
  | offer (e : E)
  | poll
  | clear
  deriving DecidableEq

inductive Returned (E : Type)
  /-- The outcome of inserting `e`. -/
  | inserted (e : E) (r : Inserted E)
  | option (e : Option E)
  | cleared

inductive Condition
  | notFull
  | notEmpty
  deriving DecidableEq

def Ask.awaits {E : Type} : Ask E → Option Condition
  | .put _ => some .notFull
  | .putWithin _ => some .notFull
  | .take => some .notEmpty
  | .takeWithin => some .notEmpty
  | _ => none

def Ask.hasDeadline {E : Type} : Ask E → Bool
  | .putWithin _ => true
  | .takeWithin => true
  | _ => false

inductive Party (E : Type)
  | idle
  /-- About to lock for the first time. -/
  | locking (ask : Ask E)
  | waiting (ask : Ask E)
  /-- No longer waits, by a notification or because its deadline has passed, and is about to lock
  and look again. -/
  | woken (ask : Ask E) (expired : Bool)
  /-- Has the lock and is about to notify one, to unlock and to return. -/
  | signalling (c : Condition) (r : Returned E)
  /-- Has unlocked and is about to notify one or all that there is room, and to return. -/
  | owing (all : Bool) (r : Returned E)

inductive Exit (E : Type)
  | wait
  | finish (r : Returned E)
  | signal (c : Condition) (r : Returned E)
  | owe (all : Bool) (r : Returned E)

/-- What a call does between locking and unlocking. -/
structure Looked (E : Type) where
  exit : Exit E
  queue : WaitingQueue E
  inserted : List E
  gone : List (E × Bool)

inductive Event (E : Type)
  /-- Party `i` begins a call. -/
  | call (i : Nat) (ask : Ask E)
  /-- Party `i` locks, looks, and goes on or begins to wait. -/
  | enter (i : Nat)
  /-- Party `i` notifies one, which wakes party `j` if a party waits for it. -/
  | notifyOne (i : Nat) (j : Option Nat)
  /-- Party `i` notifies all that wait for room. -/
  | notifyAll (i : Nat)
  /-- The deadline of party `i` passes. -/
  | expire (i : Nat)

end WaitingMachine

structure WaitingMachine (E : Type) where
  queue : WaitingQueue E
  holder : Option Nat
  parties : List (WaitingMachine.Party E)
  inserted : List E
  /-- The elements that have left, in order, each with whether it was thrown away. -/
  gone : List (E × Bool)
  returned : List (Nat × WaitingMachine.Returned E)

namespace WaitingMachine

variable {E : Type}

def start (q : WaitingQueue E) (parties : Nat) : WaitingMachine E where
  queue := q
  holder := none
  parties := List.replicate parties .idle
  inserted := q.contents
  gone := []
  returned := []

def unchanged (q : WaitingQueue E) (exit : Exit E) : Looked E := ⟨exit, q, [], []⟩

def insert (q : WaitingQueue E) (e : E) : Looked E :=
  ⟨.signal .notEmpty (.inserted e (.ok ())), q.append e, [e], []⟩

/-- What a call does when it has the lock; `expired` if its deadline has passed while it waited. -/
def look (q : WaitingQueue E) (expired : Bool) : Ask E → Looked E
  | .put e => if q.isFull then unchanged q .wait else insert q e
  | .putWithin e =>
    if q.isFull then
      unchanged q (if expired then .finish (.inserted e (.error (.timeout e))) else .wait)
    else insert q e
  | .take =>
    match q.poll with
    | (none, q) => unchanged q .wait
    | (some e, q) => ⟨.signal .notFull (.option (some e)), q, [], [(e, false)]⟩
  | .takeWithin =>
    match q.poll with
    | (none, q) => unchanged q (if expired then .finish (.option none) else .wait)
    | (some e, q) => ⟨.signal .notFull (.option (some e)), q, [], [(e, false)]⟩
  | .offer e =>
    if q.isFull then unchanged q (.finish (.inserted e (.error (.full e)))) else insert q e
  | .poll =>
    match q.poll with
    | (none, q) => unchanged q (.finish (.option none))
    | (some e, q) => ⟨.owe false (.option (some e)), q, [], [(e, false)]⟩
  | .clear =>
    ⟨.owe true .cleared, { q with contents := [] }, [], q.contents.map fun e => (e, true)⟩

def setParty (m : WaitingMachine E) (i : Nat) (p : Party E) : WaitingMachine E :=
  { m with parties := m.parties.set i p }

def finish (m : WaitingMachine E) (i : Nat) (r : Returned E) : WaitingMachine E :=
  { m.setParty i .idle with returned := m.returned ++ [(i, r)] }

/-- Only a party that is about to signal keeps the lock. -/
def leave (m : WaitingMachine E) (i : Nat) (ask : Ask E) : Exit E → WaitingMachine E
  | .wait => m.setParty i (.waiting ask)
  | .finish r => m.finish i r
  | .signal c r => { m.setParty i (.signalling c r) with holder := some i }
  | .owe all r => m.setParty i (.owing all r)

def enter? (m : WaitingMachine E) (i : Nat) (ask : Ask E) (expired : Bool) :
    Option (WaitingMachine E) :=
  match m.holder with
  | some _ => none
  | none =>
    let looked := look m.queue expired ask
    some (leave
      { m with
        queue := looked.queue
        inserted := m.inserted ++ looked.inserted
        gone := m.gone ++ looked.gone }
      i ask looked.exit)

def Party.awaits? : Party E → Option Condition
  | .waiting ask => ask.awaits
  | _ => none

def Party.notified (c : Condition) : Party E → Party E
  | .waiting ask => if ask.awaits = some c then .woken ask false else .waiting ask
  | p => p

/-- Wakes party `j`, which has to wait for `c`; nobody is to be named only if nobody waits. -/
def wakeOne? (m : WaitingMachine E) (c : Condition) : Option Nat → Option (WaitingMachine E)
  | some j =>
    match m.parties[j]? with
    | some p => if p.awaits? = some c then some (m.setParty j (p.notified c)) else none
    | none => none
  | none => if m.parties.any fun p => p.awaits? == some c then none else some m

def notifyOne? (m : WaitingMachine E) (i : Nat) (j : Option Nat) : Option (WaitingMachine E) :=
  match m.parties[i]? with
  | some (.signalling c r) => (m.wakeOne? c j).map fun m => { m.finish i r with holder := none }
  | some (.owing false r) => (m.wakeOne? .notFull j).map fun m => m.finish i r
  | _ => none

def notifyAll? (m : WaitingMachine E) (i : Nat) : Option (WaitingMachine E) :=
  match m.parties[i]? with
  | some (.owing true r) =>
    some ({ m with parties := m.parties.map (Party.notified .notFull) }.finish i r)
  | _ => none

def step? (m : WaitingMachine E) : Event E → Option (WaitingMachine E)
  | .call i ask =>
    match m.parties[i]? with
    | some .idle => some (m.setParty i (.locking ask))
    | _ => none
  | .enter i =>
    match m.parties[i]? with
    | some (.locking ask) => m.enter? i ask false
    | some (.woken ask expired) => m.enter? i ask expired
    | _ => none
  | .notifyOne i j => m.notifyOne? i j
  | .notifyAll i => m.notifyAll? i
  | .expire i =>
    match m.parties[i]? with
    | some (.waiting ask) => if ask.hasDeadline then some (m.setParty i (.woken ask true)) else none
    | _ => none

end WaitingMachine

end QueueSupply
