import QueueSupply.Queue.Any

set_option autoImplicit false

namespace QueueSupply

structure Hook (E : Type) where
  name : String
  counts : Bool
  wrap : AnyQueue E → AnyQueue E

namespace Hook

variable {E : Type}

def identity : Hook E := ⟨"IdentityHook", false, id⟩

def counting (wrap : AnyQueue E → AnyQueue E) : Hook E := ⟨"CountingHook", true, wrap⟩

def replaceNull : Hook E := counting fun _ => .null ⟨⟩

def replacePlain : Hook E := counting fun _ => .plain .empty

def run (h : Hook E) (calls : Nat) (q : AnyQueue E) : AnyQueue E × Nat :=
  (h.wrap q, if h.counts then calls + 1 else calls)

def shownCalls (h : Hook E) (calls : Nat) : Option Nat := if h.counts then some calls else none

instance : Describe (Hook E) := ⟨name⟩

end Hook

end QueueSupply
