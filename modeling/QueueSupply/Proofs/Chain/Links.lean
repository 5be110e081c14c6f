import QueueSupply.Proofs.Fifo.Unbounded
import Mathlib.Algebra.Order.BigOperators.Group.List
import Mathlib.Algebra.Order.Floor.Div
import Mathlib.Algebra.Order.Group.Nat
import Mathlib.Data.List.DropRight
import Mathlib.Data.List.Induction

set_option autoImplicit false

/-!
The links of a chain. Elements are taken from the first link and go to the last, so all links
between them are full, and no link is empty but a sole one. This bounds the number of links by the
number of elements, from below and from above. Links are given back as they are drained, the last
one only when the chain is emptied as a whole.
-/

namespace QueueSupply

variable {E : Type}

def Call.inserts : Call E → Bool
  | .offer _ => true
  | .offerAll es => !es.isEmpty
  | _ => false

namespace ChainQueue

variable {size : Nat} {links links' : List (List E)} {link : List E} {e : E}

/-- No link holds too much, those between the first and the last are full, and none is empty but a
sole one. -/
structure Packed (size : Nat) (links : List (List E)) : Prop where
  fits : ∀ link ∈ links, link.length ≤ size
  full : ∀ link ∈ links.tail.dropLast, link.length = size
  noGap : NoGap links

theorem packed_nil : Packed size ([] : List (List E)) where
  fits _ mem := nomatch mem
  full _ mem := nomatch mem
  noGap := .inr List.not_mem_nil

inductive Appended (size : Nat) (e : E) : List (List E) → List (List E) → Prop
  | first : Appended size e [] [[e]]
  | within (front : List (List E)) {last : List E} (room : last.length < size) :
      Appended size e (front ++ [last]) (front ++ [last ++ [e]])
  | behind (front : List (List E)) {last : List E} (full : size ≤ last.length) :
      Appended size e (front ++ [last]) (front ++ [last] ++ [[e]])

theorem Appended.cons (appended : Appended size e links links') (some : links ≠ [])
    (link : List E) : Appended size e (link :: links) (link :: links') := by
  cases appended with
  | first => exact absurd rfl some
  | @within front last room => exact .within (link :: front) room
  | @behind front last full => exact .behind (link :: front) full

theorem appended_appendLink (size : Nat) (e : E) : (links : List (List E)) →
    Appended size e links (appendLink size e links)
  | [] => .first
  | [link] => by
    rw [appendLink]
    split
    · next full => exact .behind [] full
    · next room => exact .within [] (Nat.not_le.mp room)
  | link :: next :: rest => by
    rw [appendLink]
    exact (appended_appendLink size e (next :: rest)).cons (List.cons_ne_nil next rest) link

theorem appendLink_ne_nil (size : Nat) (e : E) (links : List (List E)) :
    appendLink size e links ≠ [] := by
  have appended := appended_appendLink size e links
  generalize appendLink size e links = after at appended ⊢
  cases appended with
  | first => exact List.cons_ne_nil _ _
  | within | behind => exact List.concat_ne_nil _ _

theorem tail_dropLast_concat (front : List (List E)) (last : List E) :
    (front ++ [last]).tail.dropLast = front.tail := by
  cases front with
  | nil => rfl
  | cons first front => exact List.dropLast_concat

theorem Packed.append (packed : Packed size links) (pos : 0 < size) (e : E) :
    Packed size (appendLink size e links) := by
  have noGap := noGap_appendLink pos e packed.noGap
  have appended := appended_appendLink size e links
  generalize appendLink size e links = after at appended noGap ⊢
  cases appended with
  | first =>
    refine ⟨?_, ?_, noGap⟩
    · rintro link mem
      rw [List.mem_singleton.mp mem]
      exact pos
    · exact fun link mem => nomatch mem
  | @within front last room =>
    have full := packed.full
    rw [tail_dropLast_concat] at full
    refine ⟨?_, by rwa [tail_dropLast_concat], noGap⟩
    intro link mem
    rcases List.mem_append.mp mem with old | new
    · exact packed.fits link (List.mem_append_left _ old)
    · rw [List.mem_singleton.mp new, List.length_append]
      exact room
  | @behind front last filled =>
    have fits := packed.fits last (List.mem_append_right _ (List.mem_singleton_self last))
    have full := packed.full
    rw [tail_dropLast_concat] at full
    refine ⟨?_, ?_, noGap⟩
    · intro link mem
      rcases List.mem_append.mp mem with old | new
      · exact packed.fits link old
      · rw [List.mem_singleton.mp new]
        exact pos
    · -- The last link is one in between now, and a new one is begun only when it is full.
      rw [tail_dropLast_concat]
      intro link mem
      cases front with
      | nil => exact nomatch mem
      | cons first front =>
        rcases List.mem_append.mp mem with old | last_one
        · exact full link old
        · rw [List.mem_singleton.mp last_one]
          omega

theorem Packed.dropDrained {rest : List (List E)} (packed : Packed size ((e :: link) :: rest)) :
    Packed size (dropDrained (link :: rest)) := by
  have apart : [] ∉ rest := by
    rcases packed.noGap with sole | gap
    · cases sole
    · exact fun mem => gap (List.mem_cons_of_mem _ mem)
  have noGap := noGap_dropDrained link apart
  have shorter : link.length ≤ size := Nat.le_of_succ_le (packed.fits _ List.mem_cons_self)
  have fits : ∀ other ∈ rest, other.length ≤ size :=
    fun other mem => packed.fits other (List.mem_cons_of_mem _ mem)
  cases link with
  | cons next link =>
    refine ⟨?_, packed.full, noGap⟩
    rintro other (_ | ⟨_, mem⟩)
    · exact shorter
    · exact fits other mem
  | nil =>
    cases rest with
    | nil =>
      refine ⟨?_, packed.full, noGap⟩
      intro other mem
      rw [List.mem_singleton.mp mem]
      exact Nat.zero_le size
    | cons next rest =>
      refine ⟨fits, ?_, noGap⟩
      -- The next link was one in between, or the last.
      intro other mem
      have some : rest ≠ [] := by
        rintro rfl
        cases mem
      refine packed.full other ?_
      change other ∈ (next :: rest).dropLast
      rw [List.dropLast_cons_of_ne_nil some]
      exact List.mem_cons_of_mem next mem

theorem Packed.poll {q : ChainQueue E} (packed : Packed size q.links) :
    Packed size q.poll.2.links := by
  obtain ⟨linkSize, links, count⟩ := q
  match links with
  | [] => exact packed
  | [] :: rest => exact packed
  | (e :: link) :: rest => exact Packed.dropDrained packed

theorem linkSize_poll (q : ChainQueue E) : q.poll.2.linkSize = q.linkSize := by
  rw [ChainQueue.poll]
  split <;> rfl

theorem poll_of_nil {q : ChainQueue E} (none : q.links = []) : q.poll = (.none, q) := by
  rw [ChainQueue.poll, none]

theorem dropDrained_ne_nil (link : List E) (rest : List (List E)) :
    dropDrained (link :: rest) ≠ [] := by
  unfold dropDrained
  split <;> exact List.cons_ne_nil _ _

theorem links_poll_ne_nil {q : ChainQueue E} (some : q.links ≠ []) : q.poll.2.links ≠ [] := by
  rw [ChainQueue.poll]
  split
  · next e link rest _ => exact dropDrained_ne_nil link rest
  · exact some

section Counting

theorem length_flatten_le (fits : ∀ link ∈ links, link.length ≤ size) :
    links.flatten.length ≤ links.length * size := by
  have bound := List.sum_le_card_nsmul (links.map List.length) size (by simpa using fits)
  rwa [List.length_map, ← List.length_flatten] at bound

theorem length_flatten_eq (full : ∀ link ∈ links, link.length = size) :
    links.flatten.length = links.length * size := by
  have total := List.sum_eq_card_nsmul (links.map List.length) size (by simpa using full)
  rwa [List.length_map, ← List.length_flatten] at total

/-- The first and the last link hold something, and those between them are full. -/
theorem Packed.le_length_flatten (packed : Packed size links) (several : 2 ≤ links.length) :
    (links.length - 2) * size + 2 ≤ links.flatten.length := by
  have gap : [] ∉ links := by
    rcases packed.noGap with rfl | gap
    · simp at several
    · exact gap
  obtain ⟨first, rest, rfl⟩ := List.exists_cons_of_length_pos (Nat.lt_of_succ_lt several)
  have some : rest ≠ [] := by
    rintro rfl
    simp at several
  obtain ⟨between, last, rfl⟩ : ∃ between last, rest = between ++ [last] :=
    ⟨_, _, (List.dropLast_concat_getLast some).symm⟩
  have first_holds : 0 < first.length := by
    refine List.length_pos_iff.mpr fun none => gap ?_
    rw [none]
    exact List.mem_cons_self
  have last_holds : 0 < last.length := by
    refine List.length_pos_iff.mpr fun none => gap ?_
    simp [none]
  have full : ∀ link ∈ between, link.length = size := by
    simpa using packed.full
  have held := length_flatten_eq full
  simp only [List.length_cons, List.length_append, List.length_nil, List.flatten_cons,
    List.flatten_append, List.flatten_nil, List.append_nil, held]
  have links_between : between.length + (0 + 1) + 1 - 2 = between.length := by omega
  rw [links_between]
  omega

end Counting

theorem keepsDefaults : KeepsDefaults (ChainQueue E) := by
  constructor <;> intros <;> rfl

section Runs

variable {q : ChainQueue E} {c : Call E}

def IsPacked (size : Nat) (q : ChainQueue E) : Prop := q.linkSize = size ∧ Packed size q.links

theorem isPacked_offer (pos : 0 < size) (packed : IsPacked size q) (e : E) :
    IsPacked size (Buffer.offer q e).2 := by
  obtain ⟨rfl, packed⟩ := packed
  exact ⟨rfl, packed.append pos e⟩

theorem isPacked_poll (packed : IsPacked size q) : IsPacked size (Buffer.poll q).2 :=
  ⟨(linkSize_poll q).trans packed.1, packed.2.poll⟩

theorem isPacked_call (pos : 0 < size) (packed : IsPacked size q) (c : Call E) :
    IsPacked size (Buffer.call q c).2 := by
  cases clears : c.isClear with
  | true =>
    cases c with
    | clear => exact ⟨packed.1, packed_nil⟩
    | _ => cases clears
  | false =>
    refine keepsDefaults.call_keeps ?_ ?_ (fun _ kept => kept) clears packed
    · exact fun q e packed => isPacked_offer pos packed e
    · exact fun q packed => isPacked_poll packed

theorem isPacked_run (pos : 0 < size) (calls : List (Call E)) :
    ∀ {q : ChainQueue E}, IsPacked size q → IsPacked size (Buffer.run q calls).2 := by
  induction calls with
  | nil => exact fun packed => packed
  | cons c calls ih =>
    intro q packed
    exact ih (isPacked_call pos packed c)

/-- Only emptying the chain as a whole gives the last link back. -/
theorem links_call_ne_nil (other : c.isClear = false) (some : q.links ≠ []) :
    (Buffer.call q c).2.links ≠ [] := by
  refine keepsDefaults.call_keeps (P := fun q => q.links ≠ []) ?_ ?_ (fun _ kept => kept) other some
  · exact fun q e _ => appendLink_ne_nil q.linkSize e q.links
  · exact fun q some => links_poll_ne_nil some

theorem links_call_of_inserts (inserts : c.inserts = true) : (Buffer.call q c).2.links ≠ [] := by
  have offered : ∀ (q : ChainQueue E) e, (Buffer.offer q e).2.links ≠ [] :=
    fun q e => appendLink_ne_nil q.linkSize e q.links
  cases c with
  | offer e => exact offered q e
  | offerAll es =>
    cases es with
    | nil => cases inserts
    | cons e es =>
      exact offerInTurn_keeps (P := fun q => q.links ≠ []) (fun q e _ => offered q e) es _
        (offered q e)
  | poll | peek | element | remove | clear | len | isEmpty | capacityClass | remaining | capacity
  | next | count | drain => cases inserts

theorem links_call_eq_nil (none : q.links = []) (idle : c.inserts = false) :
    (Buffer.call q c).2.links = [] := by
  have poll : Buffer.poll q = (.none, q) := poll_of_nil none
  have next : Buffer.next q = (.none, q) := by
    rw [Buffer.next, poll, ite_self]
  have drain : Buffer.drain q = ([], q) := by
    rw [Buffer.drain, pollUpTo, next]
  cases c with
  | offer e => cases idle
  | offerAll es =>
    cases es with
    | nil => exact none
    | cons e es => cases idle
  | poll => exact (congrArg (·.2.links) poll).trans none
  | remove => exact (congrArg (·.2.links) poll).trans none
  | next => exact (congrArg (·.2.links) next).trans none
  | count => exact (congrArg (·.2.links) drain).trans none
  | drain => exact (congrArg (·.2.links) drain).trans none
  | clear => rfl
  | peek | element | len | isEmpty | capacityClass | remaining | capacity => exact none

theorem links_run_eq_nil_iff (none : q.links = []) (calls : List (Call E)) :
    (Buffer.run q calls).2.links = [] ↔
      ∀ c ∈ calls.rtakeWhile fun c => !c.isClear, c.inserts = false := by
  induction calls using List.reverseRecOn with
  | nil => simp [Buffer.run, none]
  | append_singleton calls c ih =>
    rw [Buffer.run_append]
    change (Buffer.call (Buffer.run q calls).2 c).2.links = [] ↔ _
    generalize (Buffer.run q calls).2 = before at ih ⊢
    cases clears : c.isClear with
    | true =>
      cases c with
      | clear => simp [Call.isClear, Buffer.call, Buffer.clear]
      | _ => cases clears
    | false =>
      rw [List.rtakeWhile_concat_pos _ _ _ (by simp [clears])]
      constructor
      · intro gone d mem
        rcases List.mem_append.mp mem with old | new
        · have nothing : before.links = [] := by
            by_contra some
            exact links_call_ne_nil clears some gone
          exact ih.mp nothing d old
        · rw [List.mem_singleton.mp new, Bool.eq_false_iff]
          exact fun inserts => links_call_of_inserts inserts gone
      · intro idle
        refine links_call_eq_nil (ih.mpr fun d mem => idle d (List.mem_append_left _ mem)) ?_
        exact idle c (List.mem_append_right _ (List.mem_singleton_self c))

end Runs

/-- The counter tells what is in the links, and the number of links is within its bounds. -/
structure WellLinked (size : Nat) (q : ChainQueue E) : Prop where
  linkSize_eq : q.linkSize = size
  count_eq : q.count = (q.links.map List.length).sum
  /-- Taking an element off the counter never meets a counter at zero. -/
  count_poll : ∀ e, (Buffer.poll q).1 = some e → (Buffer.poll q).2.count + 1 = q.count
  packed : Packed size q.links
  length_of_zero : q.count = 0 → q.links.length ≤ 1
  length_of_one : q.count = 1 → q.links.length = 1
  length_of_more : 2 ≤ q.count →
    q.count ⌈/⌉ size ≤ q.links.length ∧ q.links.length ≤ (q.count - 2) / size + 2

variable {q : ChainQueue E}

theorem Linked.count_poll (linked : q.Linked) {e : E} (polled : q.poll.1 = some e) :
    q.poll.2.count + 1 = q.count := by
  obtain ⟨head, tail, after⟩ := linked.poll
  rw [polled] at head
  obtain ⟨rest, held⟩ := List.head?_eq_some_iff.mp head.symm
  rw [after.count_eq, tail, linked.count_eq, held]
  rfl

theorem Packed.length_le (packed : Packed size links) (pos : 0 < size)
    (more : 2 ≤ links.flatten.length) :
    links.length ≤ (links.flatten.length - 2) / size + 2 := by
  by_cases several : 2 ≤ links.length
  · have held := packed.le_length_flatten several
    have between : links.length - 2 ≤ (links.flatten.length - 2) / size :=
      (Nat.le_div_iff_mul_le pos).mpr (by omega)
    omega
  · exact Nat.le_trans (by omega) (Nat.le_add_left 2 _)

theorem Linked.wellLinked (linked : q.Linked) (packed : Packed size q.links)
    (sized : q.linkSize = size) : WellLinked size q where
  linkSize_eq := sized
  count_eq := by rw [linked.count_eq, List.length_flatten]
  count_poll _ polled := linked.count_poll polled
  packed := packed
  length_of_zero none := by
    by_contra many
    have held := packed.le_length_flatten (by omega)
    rw [linked.count_eq] at none
    omega
  length_of_one one := by
    rw [linked.count_eq] at one
    have some : q.links.length ≠ 0 := by
      intro none
      rw [List.length_eq_zero_iff.mp none] at one
      cases one
    by_contra many
    have held := packed.le_length_flatten (by omega)
    omega
  length_of_more more := by
    have pos := sized ▸ linked.linkSize_pos
    rw [linked.count_eq] at more ⊢
    refine ⟨?_, packed.length_le pos more⟩
    rw [ceilDiv_le_iff_le_mul pos, Nat.mul_comm]
    exact length_flatten_le packed.fits

/-- Whatever the calls on a new chain, its counter tells the number of elements in its links, which
are full but for the first and the last, so that there is at most one link more than these elements
need. There is none exactly if nothing has been inserted since the start or since the chain was last
emptied as a whole. -/
theorem links_stay_packed (requested : UInt64) (calls : List (Call E)) :
    WellLinked (linkSizeFor requested) (Buffer.run (ofLinkSize requested : ChainQueue E) calls).2 ∧
      ((Buffer.run (ofLinkSize requested : ChainQueue E) calls).2.links = [] ↔
        ∀ c ∈ calls.rtakeWhile fun c => !c.isClear, c.inserts = false) := by
  obtain ⟨sized, packed⟩ := isPacked_run (linkSizeFor_pos requested) calls
    (q := ofLinkSize requested) ⟨rfl, packed_nil⟩
  obtain ⟨linked, -⟩ := (represents.run (q := ofLinkSize requested)
    ⟨linked_ofLinkSize requested, rfl⟩ calls).2
  exact ⟨linked.wellLinked packed sized, links_run_eq_nil_iff rfl calls⟩

/-- A link that has been drained is dropped, but not the last one. -/
example : (Buffer.run (ofLinkSize 8 : ChainQueue Nat)
    (List.replicate 17 (.offer 0) ++ List.replicate 9 .poll)).2.links.map List.length = [7, 1] := by
  decide

end ChainQueue

end QueueSupply
