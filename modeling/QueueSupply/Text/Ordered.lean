set_option autoImplicit false

namespace QueueSupply

class Ordered (α : Type) where
  le : α → α → Bool

namespace Ordered

instance : Ordered Int := ⟨fun a b => decide (a ≤ b)⟩

instance : Ordered String := ⟨fun a b => decide (a ≤ b)⟩

instance {α : Type} [Ordered α] : Ordered (Option α) where
  le
    | none, _ => true
    | some _, none => false
    | some a, some b => le a b

/-- The first position where two rows differ decides. -/
def leRow {α : Type} [Ordered α] : List α → List α → Bool
  | [], _ => true
  | _ :: _, [] => false
  | a :: as, b :: bs => if le a b then (if le b a then leRow as bs else true) else false

instance {α : Type} [Ordered α] : Ordered (List α) := ⟨leRow⟩

def sort {α : Type} [Ordered α] (items : List α) : List α := items.mergeSort le

end Ordered

end QueueSupply
