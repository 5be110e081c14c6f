import QueueSupply.Text.Numeral
import QueueSupply.Text.Quoted

set_option autoImplicit false

namespace QueueSupply

class Describe (α : Type) where
  describe : α → String

export Describe (describe)

def describeRecord (name : String) (fields : List (String × String)) : String :=
  match fields with
  | [] => name
  | _ =>
    name ++ " \x7b " ++ ", ".intercalate (fields.map fun (field, text) => field ++ ": " ++ text)
      ++ " \x7d"

def describeVariant (name argument : String) : String := name ++ "(" ++ argument ++ ")"

def describeItems (items : List String) : String := "[" ++ ", ".intercalate items ++ "]"

instance : Describe Nat := ⟨fun n => String.ofList (Text.numeral n)⟩

instance : Describe Int where
  describe
    | .ofNat n => describe n
    | .negSucc n => "-" ++ describe (n + 1)

instance : Describe UInt64 := ⟨fun n => describe n.toNat⟩

instance : Describe Int64 := ⟨fun n => describe n.toInt⟩

instance : Describe Bool := ⟨fun b => if b then "true" else "false"⟩

instance : Describe String := ⟨Text.quoted⟩

instance {α : Type} [Describe α] : Describe (Option α) where
  describe
    | none => "None"
    | some a => describeVariant "Some" (describe a)

instance {α : Type} [Describe α] : Describe (List α) where
  describe items := describeItems (items.map describe)

end QueueSupply
