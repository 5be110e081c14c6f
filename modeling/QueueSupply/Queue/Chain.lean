import QueueSupply.Buffer.Basic
import QueueSupply.Numeric.PowerOfTwo

set_option autoImplicit false

namespace QueueSupply

structure ChainQueue (E : Type) where
  linkSize : Nat
  links : List (List E)
  count : Nat
  deriving DecidableEq

namespace ChainQueue

variable {E : Type}

def minLinkSize : Nat := 8

def maxLinkSize : UInt64 := 1073741824

def clampLinkSize (requested : UInt64) : UInt64 :=
  if requested < 1 then 1 else if maxLinkSize < requested then maxLinkSize else requested

def linkSizeFor (requested : UInt64) : Nat :=
  match ceilingPowerOfTwo (clampLinkSize requested).toInt64 with
  | .ok size => max size.toUInt64.toNat minLinkSize
  | .error _ => maxLinkSize.toNat

def ofLinkSize (requested : UInt64) : ChainQueue E := ⟨linkSizeFor requested, [], 0⟩

def appendLink (size : Nat) (e : E) : List (List E) → List (List E)
  | [] => [[e]]
  | [link] => if size ≤ link.length then [link, [e]] else [link ++ [e]]
  | link :: next :: rest => link :: appendLink size e (next :: rest)

theorem flatten_appendLink (size : Nat) (e : E) :
    (links : List (List E)) → (appendLink size e links).flatten = links.flatten ++ [e]
  | [] => rfl
  | [link] => by
    unfold appendLink
    split <;> simp
  | link :: next :: rest => by
    rw [appendLink, List.flatten_cons, flatten_appendLink size e (next :: rest)]
    simp

def dropDrained : List (List E) → List (List E)
  | [] :: next :: rest => next :: rest
  | links => links

theorem flatten_dropDrained (links : List (List E)) :
    (dropDrained links).flatten = links.flatten := by
  unfold dropDrained
  split <;> rfl

def poll (q : ChainQueue E) : Option E × ChainQueue E :=
  match q.links with
  | (e :: link) :: rest =>
    (some e, { q with links := dropDrained (link :: rest), count := q.count - 1 })
  | _ => (none, q)

def first? (links : List (List E)) : Option E := links.head?.bind List.head?

instance : Buffer (ChainQueue E) E where
  toList q := q.links.flatten
  len q := q.count
  capacityClass _ := .unbounded
  offer q e := (.ok (), { q with links := appendLink q.linkSize e q.links, count := q.count + 1 })
  poll := poll
  peek q := (first? q.links, q)
  clear q := { q with links := [], count := 0 }

end ChainQueue

end QueueSupply
