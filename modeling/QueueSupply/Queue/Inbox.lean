import QueueSupply.Buffer.Basic

set_option autoImplicit false

namespace QueueSupply

structure InboxQueue (E : Type) where
  channel : List E
  cell : Option E
  count : Nat
  deriving DecidableEq

namespace InboxQueue

variable {E : Type}

def empty : InboxQueue E := ⟨[], none, 0⟩

def announce (q : InboxQueue E) : InboxQueue E := { q with count := q.count + 1 }

def send (q : InboxQueue E) (e : E) : InboxQueue E := { q with channel := q.channel ++ [e] }

def takeHead (q : InboxQueue E) : Option E × InboxQueue E :=
  match q.cell with
  | some e => (some e, { q with cell := none })
  | none => (q.channel.head?, { q with channel := q.channel.tail })

def discount (q : InboxQueue E) : InboxQueue E := { q with count := q.count - 1 }

def poll (q : InboxQueue E) : Option E × InboxQueue E :=
  match q.takeHead with
  | (none, q) => (none, q)
  | (some e, q) => (some e, q.discount)

def fillCell (q : InboxQueue E) : InboxQueue E :=
  match q.cell with
  | some _ => q
  | none => { q with cell := q.channel.head?, channel := q.channel.tail }

/-- Takes one off the counter for each element that is thrown away. -/
def clear (q : InboxQueue E) : InboxQueue E :=
  ⟨[], none, q.count - q.cell.toList.length - q.channel.length⟩

instance : Buffer (InboxQueue E) E where
  toList q := q.cell.toList ++ q.channel
  len q := q.count
  capacityClass _ := .unbounded
  offer q e := (.ok (), q.announce.send e)
  poll := poll
  peek q := (q.fillCell.cell, q.fillCell)
  clear := clear

theorem toList_send (q : InboxQueue E) (e : E) :
    Buffer.toList (q.send e) = Buffer.toList q ++ [e] := by
  simp [Buffer.toList, send]

theorem isEmpty_iff (q : InboxQueue E) : Buffer.isEmpty q = true ↔ q.count = 0 := beq_iff_eq

theorem takeHead_fst (q : InboxQueue E) : q.takeHead.1 = (Buffer.toList q).head? := by
  cases h : q.cell <;> simp [takeHead, Buffer.toList, h]

theorem toList_takeHead (q : InboxQueue E) :
    Buffer.toList q.takeHead.2 = (Buffer.toList q).tail := by
  cases h : q.cell <;> simp [takeHead, Buffer.toList, h]

theorem count_takeHead (q : InboxQueue E) : q.takeHead.2.count = q.count := by
  unfold takeHead
  split <;> rfl

theorem takeHead_of_nil {q : InboxQueue E} (h : Buffer.toList q = []) : q.takeHead = (none, q) := by
  obtain ⟨channel, cell, count⟩ := q
  obtain ⟨no_cell, no_channel⟩ := List.append_eq_nil_iff.mp h
  obtain rfl : channel = [] := no_channel
  obtain rfl : cell = none := Option.toList_eq_nil_iff.mp no_cell
  rfl

/-- Looking moves the head and changes nothing that is held. -/
theorem toList_fillCell (q : InboxQueue E) : Buffer.toList q.fillCell = Buffer.toList q := by
  cases h : q.cell with
  | some e => simp [fillCell, h]
  | none => cases hc : q.channel <;> simp [fillCell, Buffer.toList, h, hc]

theorem cell_fillCell (q : InboxQueue E) : q.fillCell.cell = (Buffer.toList q).head? := by
  cases h : q.cell <;> simp [fillCell, Buffer.toList, h]

theorem count_fillCell (q : InboxQueue E) : q.fillCell.count = q.count := by
  unfold fillCell
  split <;> rfl

end InboxQueue

end QueueSupply
