import QueueSupply.Buffer.Basic

set_option autoImplicit false

namespace QueueSupply

structure Offering (E : Type) where
  pending : List E
  accepted : List E
  rejected : List E
  deriving DecidableEq

structure Offers (Q E : Type) where
  queue : Q
  producers : List (Offering E)

namespace Offers

variable {Q E : Type} [Buffer Q E]

def start (q : Q) (lists : List (List E)) : Offers Q E := ⟨q, lists.map fun es => ⟨es, [], []⟩⟩

def step (o : Offers Q E) (i : Nat) : Offers Q E :=
  match o.producers[i]? with
  | none => o
  | some p =>
    match p.pending with
    | [] => o
    | e :: rest =>
      match Buffer.offer o.queue e with
      | (.ok (), q) =>
        ⟨q, o.producers.set i { p with pending := rest, accepted := p.accepted ++ [e] }⟩
      | (.error _, q) =>
        ⟨q, o.producers.set i { p with pending := rest, rejected := p.rejected ++ [e] }⟩

def run (o : Offers Q E) (schedule : List Nat) : Offers Q E := schedule.foldl step o

/-- Each producer in turn offers its whole list. -/
def oneByOne (lists : List (List E)) : List Nat :=
  (lists.mapIdx fun i es => List.replicate es.length i).flatten

def complete (q : Q) (lists : List (List E)) : Offers Q E := (start q lists).run (oneByOne lists)

def rejectedCount (o : Offers Q E) : Nat := (o.producers.flatMap Offering.rejected).length

end Offers

end QueueSupply
