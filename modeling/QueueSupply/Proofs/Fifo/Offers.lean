import QueueSupply.Proofs.Fifo.Room
import Mathlib.Data.List.Induction
import Mathlib.Data.List.Perm.Basic

set_option autoImplicit false

/-!
Many producers on a queue that stands for a list, with nothing removed meanwhile. A queue that has
turned one element down is full and stays so. Of each producer's elements a first part is taken in
and the rest turned down, and how many are turned down in all depends on the number of offers alone,
not on their order. What is taken in is a merge of the first parts.
-/

namespace QueueSupply

variable {E : Type}

/-- The list is put together out of the others, each of which keeps its order. -/
inductive Merged : List (List E) → List E → Prop
  | nothing {lists : List (List E)} (empty : ∀ es ∈ lists, es = []) : Merged lists []
  | next {lists : List (List E)} {merge es : List E} {i : Nat} {e : E}
      (merged : Merged lists merge) (here : lists[i]? = some es) :
      Merged (lists.set i (es ++ [e])) (merge ++ [e])

namespace Merged

variable {lists : List (List E)} {merge es : List E} {i : Nat}

theorem flatten_set_perm (here : lists[i]? = some es) (e : E) :
    (lists.set i (es ++ [e])).flatten.Perm (lists.flatten ++ [e]) := by
  induction lists generalizing i with
  | nil => simp at here
  | cons first lists ih =>
    cases i with
    | zero =>
      obtain rfl : first = es := by simpa using here
      rw [List.set_cons_zero, List.flatten_cons, List.flatten_cons, List.append_assoc,
        List.append_assoc]
      exact List.perm_append_comm.append_left first
    | succ i =>
      have rest := ih (i := i) (by simpa using here)
      rw [List.set_cons_succ, List.flatten_cons, List.flatten_cons, List.append_assoc]
      exact rest.append_left first

theorem perm (merged : Merged lists merge) : merge.Perm lists.flatten := by
  induction merged with
  | nothing empty => rw [List.flatten_eq_nil_iff.mpr empty]
  | @next lists merge es i e merged here ih =>
    exact (ih.append_right [e]).trans (flatten_set_perm here e).symm

theorem sublist (merged : Merged lists merge) : ∀ es ∈ lists, es.Sublist merge := by
  induction merged with
  | nothing empty =>
    intro es mem
    rw [empty es mem]
  | @next lists merge es i e merged here ih =>
    intro longer mem
    rcases List.mem_or_eq_of_mem_set mem with old | rfl
    · exact (ih longer old).trans (List.sublist_append_left merge [e])
    · exact (ih es (List.mem_of_getElem? here)).append_right [e]

end Merged

theorem map_set_of_eq {α β : Type} {f : α → β} {xs : List α} {i : Nat} {old new : α}
    (here : xs[i]? = some old) (same : f new = f old) : (xs.set i new).map f = xs.map f := by
  induction xs generalizing i with
  | nil => simp at here
  | cons x xs ih =>
    cases i with
    | zero =>
      obtain rfl : x = old := by simpa using here
      simp [same]
    | succ i => simp [ih (i := i) (by simpa using here)]

/-- What has become of the producer's list after so many of its turns. -/
structure Offering.After (turns : Nat) (es : List E) (p : Offering E) : Prop where
  made : p.accepted ++ p.rejected = es.take turns
  pending : p.pending = es.drop turns

namespace Offering.After

variable {turns : Nat} {es rest : List E} {p : Offering E} {e : E}

theorem start (es : List E) : After 0 es ⟨es, [], []⟩ := ⟨rfl, rfl⟩

/-- A turn after the last element changes nothing. -/
theorem idle (after : p.After turns es) (done : p.pending = []) : p.After (turns + 1) es := by
  have short : es.length ≤ turns := by
    rw [after.pending] at done
    simpa using done
  refine ⟨?_, ?_⟩
  · rw [after.made, List.take_of_length_le short, List.take_of_length_le (by omega)]
  · rw [done, List.drop_of_length_le (by omega)]

theorem take_succ (after : p.After turns es) (next : p.pending = e :: rest) :
    es.take (turns + 1) = es.take turns ++ [e] ∧ es.drop (turns + 1) = rest := by
  have split : es.drop turns = e :: rest := after.pending.symm.trans next
  have first : es[turns]? = some e := by
    rw [← List.head?_drop, split]
    rfl
  refine ⟨?_, ?_⟩
  · rw [List.take_add_one, first]
    rfl
  · rw [← List.tail_drop, split]
    rfl

theorem refused (after : p.After turns es) (next : p.pending = e :: rest) :
    After (turns + 1) es { p with pending := rest, rejected := p.rejected ++ [e] } := by
  obtain ⟨made, left⟩ := after.take_succ next
  exact ⟨by rw [made, ← after.made, List.append_assoc], left.symm⟩

theorem accepted (after : p.After turns es) (next : p.pending = e :: rest)
    (none_refused : p.rejected = []) :
    After (turns + 1) es { p with pending := rest, accepted := p.accepted ++ [e] } := by
  obtain ⟨made, left⟩ := after.take_succ next
  refine ⟨?_, left.symm⟩
  rw [made, ← after.made]
  simp [none_refused]

end Offering.After

namespace Offers

variable {Q : Type} {R : Q → Fifo E → Prop} {o o' : Offers Q E} {l l' : Fifo E}
  {lists : List (List E)} {schedule : List Nat} {i : Nat}

inductive Turn (R : Q → Fifo E → Prop) (o : Offers Q E) (l : Fifo E) (i : Nat) :
    Offers Q E → Fifo E → Prop
  | idle (done : ∀ p, o.producers[i]? = some p → p.pending = []) (stands : R o.queue l) :
      Turn R o l i o l
  | refused {q : Q} {p : Offering E} {e : E} {rest : List E} (here : o.producers[i]? = some p)
      (next : p.pending = e :: rest) (full : l.isFull = true) (stands : R q l) :
      Turn R o l i
        ⟨q, o.producers.set i { p with pending := rest, rejected := p.rejected ++ [e] }⟩ l
  | accepted {q : Q} {p : Offering E} {e : E} {rest : List E} (here : o.producers[i]? = some p)
      (next : p.pending = e :: rest) (room : l.isFull = false) (stands : R q (l.append [e])) :
      Turn R o l i
        ⟨q, o.producers.set i { p with pending := rest, accepted := p.accepted ++ [e] }⟩
        (l.append [e])

theorem turn_of_step [Buffer Q E] {m : Manner} (rep : Represents R m) (stands : R o.queue l)
    (i : Nat) : ∃ l', Turn R o l i (o.step i) l' := by
  cases here : o.producers[i]? with
  | none =>
    have stepped : o.step i = o := by simp only [step, here]
    rw [stepped]
    exact ⟨l, .idle (by simp [here]) stands⟩
  | some p =>
    cases next : p.pending with
    | nil =>
      have stepped : o.step i = o := by simp only [step, here, next]
      rw [stepped]
      exact ⟨l, .idle (by simpa [here] using next) stands⟩
    | cons e rest =>
      obtain ⟨answer, after⟩ := rep.offer stands e
      rcases offer : Buffer.offer o.queue e with ⟨r, q⟩
      rw [offer] at answer after
      cases full : l.isFull with
      | true =>
        simp only [Fifo.offer, full, if_true] at answer after
        simp only [step, here, next, offer, answer]
        exact ⟨l, .refused here next full after⟩
      | false =>
        simp only [Fifo.offer, full, Bool.false_eq_true, if_false] at answer after
        simp only [step, here, next, offer, answer]
        exact ⟨l.append [e], .accepted here next full after⟩

/-- What holds after the turns in the schedule, when the queue stood for `before` at the start. -/
structure Settled (R : Q → Fifo E → Prop) (before : Fifo E) (lists : List (List E))
    (schedule : List Nat) (o : Offers Q E) (l : Fifo E) : Prop where
  stands : R o.queue l
  fits : l.Fits
  full : o.rejectedCount ≠ 0 → l.isFull = true
  merged : ∃ added, l = before.append added ∧ Merged (o.producers.map Offering.accepted) added
  length_eq : o.producers.length = lists.length
  after : ∀ (i : Nat) (es : List E), lists[i]? = some es →
    ∃ p, o.producers[i]? = some p ∧ p.After (schedule.count i) es

variable {before : Fifo E}

theorem Settled.start {q : Q} (stands : R q l) (fits : l.Fits) (lists : List (List E)) :
    Settled R l lists [] (Offers.start q lists) l where
  stands := stands
  fits := fits
  full some_refused := by
    refine absurd ?_ some_refused
    simp [Offers.start, rejectedCount, List.flatMap_map]
  merged := by
    refine ⟨[], by simp, .nothing ?_⟩
    simp [Offers.start]
  length_eq := by simp [Offers.start]
  after i es here := ⟨⟨es, [], []⟩, by simp [Offers.start, here], .start es⟩

/-- While there is room nothing has been turned down. -/
theorem Settled.none_refused (h : Settled R before lists schedule o l) (room : l.isFull = false) :
    o.rejectedCount = 0 := by
  by_contra some_refused
  rw [h.full some_refused] at room
  exact Bool.noConfusion room

theorem rejected_eq_nil (none_refused : o.rejectedCount = 0) {p : Offering E}
    (here : o.producers[i]? = some p) : p.rejected = [] := by
  rw [rejectedCount, List.length_eq_zero_iff, List.flatMap_eq_nil_iff] at none_refused
  exact none_refused p (List.mem_of_getElem? here)

/-- The turn brings the list of its own producer on by one, and no other. -/
theorem after_set {p p' : Offering E}
    (after : ∀ (j : Nat) (es : List E), lists[j]? = some es →
      ∃ p, o.producers[j]? = some p ∧ p.After (schedule.count j) es)
    (here : o.producers[i]? = some p)
    (onward : ∀ turns es, p.After turns es → p'.After (turns + 1) es) :
    ∀ (j : Nat) (es : List E), lists[j]? = some es →
      ∃ p, (o.producers.set i p')[j]? = some p ∧ p.After ((schedule ++ [i]).count j) es := by
  intro j es list
  obtain ⟨old, at_j, so_far⟩ := after j es list
  by_cases own : i = j
  · subst own
    obtain rfl : p = old := Option.some.inj (here.symm.trans at_j)
    have inside := (List.getElem?_eq_some_iff.mp here).1
    refine ⟨p', by simp [inside], ?_⟩
    rw [List.count_append, List.count_singleton_self]
    exact onward _ _ so_far
  · refine ⟨old, by rw [List.getElem?_set_ne own, at_j], ?_⟩
    simpa [List.count_append, own] using so_far

/-- A turn settles one more offer: the first refusal is only possible at a full queue, and a full
queue takes nothing in any more. -/
theorem Settled.turn (h : Settled R before lists schedule o l) (turn : Turn R o l i o' l') :
    Settled R before lists (schedule ++ [i]) o' l' := by
  cases turn with
  | idle done stands =>
    refine ⟨stands, h.fits, h.full, h.merged, h.length_eq, ?_⟩
    intro j es list
    obtain ⟨p, at_j, so_far⟩ := h.after j es list
    refine ⟨p, at_j, ?_⟩
    by_cases own : i = j
    · subst own
      rw [List.count_append, List.count_singleton_self]
      exact so_far.idle (done p at_j)
    · simpa [List.count_append, own] using so_far
  | @refused q p e rest here next full stands =>
    have same : (o.producers.set i
        { p with pending := rest, rejected := p.rejected ++ [e] }).map Offering.accepted =
          o.producers.map Offering.accepted := map_set_of_eq here rfl
    refine ⟨stands, h.fits, fun _ => full, ?_, by simp [h.length_eq], ?_⟩
    · simpa only [same] using h.merged
    · exact after_set h.after here fun _ _ so_far => so_far.refused next
  | @accepted q p e rest here next room stands =>
    have none_refused := h.none_refused room
    have same : (o.producers.set i
        { p with pending := rest, accepted := p.accepted ++ [e] }).map Offering.rejected =
          o.producers.map Offering.rejected := map_set_of_eq here rfl
    refine ⟨stands, ?_, ?_, ?_, by simp [h.length_eq], ?_⟩
    · simpa [Fifo.offer, room] using h.fits.offer e
    · intro some_refused
      refine absurd ?_ some_refused
      rw [rejectedCount, List.flatMap_def, same, ← List.flatMap_def]
      exact none_refused
    · obtain ⟨added, rfl, merged⟩ := h.merged
      refine ⟨added ++ [e], by simp, ?_⟩
      rw [List.map_set]
      exact merged.next (by simp [here])
    · exact after_set h.after here fun _ _ so_far =>
        so_far.accepted next (rejected_eq_nil none_refused here)

theorem Settled.run [Buffer Q E] {m : Manner} {q : Q} (rep : Represents R m) (stands : R q l)
    (fits : l.Fits) (lists : List (List E)) (schedule : List Nat) :
    ∃ l', Settled R l lists schedule ((Offers.start q lists).run schedule) l' := by
  induction schedule using List.reverseRecOn with
  | nil => exact ⟨l, .start stands fits lists⟩
  | append_singleton schedule i ih =>
    obtain ⟨l', so_far⟩ := ih
    obtain ⟨l'', turn⟩ := turn_of_step rep so_far.stands i
    refine ⟨l'', ?_⟩
    rw [Offers.run, List.foldl_append]
    exact so_far.turn turn

def offered (schedule : List Nat) (lists : List (List E)) : List (List E) :=
  lists.mapIdx fun i es => es.take (schedule.count i)

/-- How many of the offers are too many, when so many elements are held at the start. -/
def excess (bound : Option Nat) (held offers : Nat) : Nat :=
  match bound with
  | some n => offers - (n - held)
  | none => 0

theorem length_accepted_rejected (producers : List (Offering E)) :
    (producers.map fun p => p.accepted ++ p.rejected).flatten.length =
      (producers.map Offering.accepted).flatten.length +
        (producers.flatMap Offering.rejected).length := by
  induction producers with
  | nil => rfl
  | cons p producers ih =>
    simp only [List.map_cons, List.flatten_cons, List.length_append, List.flatMap_cons, ih]
    omega

theorem Settled.offered_eq (h : Settled R before lists schedule o l) :
    o.producers.map (fun p => p.accepted ++ p.rejected) = offered schedule lists := by
  apply List.ext_getElem?
  intro i
  rw [offered, List.getElem?_map, List.getElem?_mapIdx]
  cases list : lists[i]? with
  | none =>
    have beyond : o.producers[i]? = none := by
      rw [List.getElem?_eq_none_iff] at list ⊢
      rw [h.length_eq]
      exact list
    rw [beyond]
    rfl
  | some es =>
    obtain ⟨p, here, so_far⟩ := h.after i es list
    simp [here, so_far.made]

theorem Settled.rejectedCount_eq (h : Settled R before lists schedule o l) :
    o.rejectedCount = excess before.bound before.items.length
      (offered schedule lists).flatten.length := by
  obtain ⟨added, rfl, merged⟩ := h.merged
  have in_all := length_accepted_rejected o.producers
  rw [h.offered_eq, ← merged.perm.length_eq] at in_all
  change _ = added.length + o.rejectedCount at in_all
  have held : (before.append added).items.length = before.items.length + added.length :=
    List.length_append
  cases bound : before.bound with
  | none =>
    apply h.none_refused
    simp [Fifo.isFull, Fifo.room, Fifo.append, bound]
  | some n =>
    have within := h.fits n bound
    by_cases refused : o.rejectedCount = 0
    · simp only [excess]
      omega
    · obtain ⟨n', bound', le⟩ := (before.append added).isFull_iff.mp (h.full refused)
      obtain rfl : n = n' := Option.some.inj (bound.symm.trans bound')
      simp only [excess]
      omega

/-- What the offers in the schedule come to on a queue with the bound that held `content`. -/
structure Outcome [Buffer Q E] (bound : Option Nat) (content : List E) (lists : List (List E))
    (schedule : List Nat) (o : Offers Q E) : Prop where
  rejected : o.rejectedCount = excess bound content.length (offered schedule lists).flatten.length
  firstPart : ∀ (i : Nat) (es : List E), lists[i]? = some es →
    ∃ p, o.producers[i]? = some p ∧ p.accepted ++ p.rejected = es.take (schedule.count i)
  merged : ∃ added, Buffer.toList o.queue = content ++ added ∧
    Merged (o.producers.map Offering.accepted) added ∧
    ∀ p ∈ o.producers, p.accepted.Sublist added
  perm : (Buffer.toList o.queue).Perm (content ++ (o.producers.map Offering.accepted).flatten)

theorem Settled.outcome [Buffer Q E] {m : Manner} (rep : Represents R m)
    (h : Settled R before lists schedule o l) :
    Outcome before.bound before.items lists schedule o := by
  have rejected := h.rejectedCount_eq
  obtain ⟨added, rfl, merged⟩ := h.merged
  have content : Buffer.toList o.queue = before.items ++ added := rep.toList h.stands
  refine ⟨rejected, ?_, ⟨added, content, merged, ?_⟩, ?_⟩
  · intro i es list
    obtain ⟨p, here, so_far⟩ := h.after i es list
    exact ⟨p, here, so_far.made⟩
  · intro p mem
    exact merged.sublist p.accepted (List.mem_map_of_mem mem)
  · rw [content]
    exact merged.perm.append_left before.items

theorem offered_of_complete
    (complete : ∀ (i : Nat) (es : List E), lists[i]? = some es → es.length ≤ schedule.count i) :
    offered schedule lists = lists := by
  apply List.ext_getElem?
  intro i
  rw [offered, List.getElem?_mapIdx]
  cases list : lists[i]? with
  | none => rfl
  | some es => simp [List.take_of_length_le (complete i es list)]

end Offers

/-- After any steps on a new queue of any type, producers offer in any order. Of each list a first
part is taken in and what else has been offered is turned down, the queue holds a merge of the first
parts behind what it held before, and as many elements are turned down as are too many. So when all
elements have been offered, the order does not change how many are turned down. -/
theorem offers_take_in_first_parts [DecidableEq E] [Ordered E] (type : QueueType)
    (steps : List (QueueStep E)) (lists : List (List E)) :
    (∀ schedule, Offers.Outcome type.bound
        (Buffer.toList (QueueStep.after (type.fresh : AnyQueue E) steps)) lists schedule
        ((Offers.start (QueueStep.after type.fresh steps) lists).run schedule)) ∧
      (∀ schedule, (∀ (i : Nat) (es : List E), lists[i]? = some es → es.length ≤ schedule.count i) →
        ((Offers.start (QueueStep.after type.fresh steps) lists).run schedule).rejectedCount =
          Offers.excess type.bound (Buffer.len (QueueStep.after (type.fresh : AnyQueue E) steps))
            lists.flatten.length) := by
  obtain ⟨R, l, rep, now, bound, fits⟩ := type.represented_after steps
  rw [rep.toList now, rep.len now, ← bound]
  have outcome : ∀ schedule, Offers.Outcome l.bound l.items lists schedule
      ((Offers.start (QueueStep.after type.fresh steps) lists).run schedule) := by
    intro schedule
    obtain ⟨l', settled⟩ := Offers.Settled.run rep now fits lists schedule
    exact settled.outcome rep
  refine ⟨outcome, ?_⟩
  intro schedule complete
  rw [(outcome schedule).rejected, Offers.offered_of_complete complete]

end QueueSupply
