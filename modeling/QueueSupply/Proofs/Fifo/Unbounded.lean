import QueueSupply.Proofs.Fifo.Representation
import QueueSupply.Queue.Chain
import QueueSupply.Queue.Inbox
import QueueSupply.Queue.Plain

set_option autoImplicit false

namespace QueueSupply

variable {E : Type}

theorem Fifo.offer_unbounded (xs : List E) (e : E) :
    (⟨none, xs⟩ : Fifo E).offer e = (.ok (), ⟨none, xs ++ [e]⟩) := rfl

namespace ChainQueue

def NoGap (links : List (List E)) : Prop := links = [[]] ∨ [] ∉ links

structure Linked (q : ChainQueue E) : Prop where
  linkSize_pos : 0 < q.linkSize
  count_eq : q.count = q.links.flatten.length
  noGap : NoGap q.links

theorem linkSizeFor_pos (requested : UInt64) : 0 < linkSizeFor requested := by
  unfold linkSizeFor
  split
  · next size _ =>
    have least := Nat.le_max_right size.toUInt64.toNat minLinkSize
    exact Nat.lt_of_lt_of_le (by decide) least
  · decide

theorem linked_ofLinkSize (requested : UInt64) : (ofLinkSize requested : ChainQueue E).Linked :=
  ⟨linkSizeFor_pos requested, rfl, Or.inr (by simp [ofLinkSize])⟩

theorem nil_notMem_appendLink (size : Nat) (e : E) : (links : List (List E)) → [] ∉ links →
    [] ∉ appendLink size e links
  | [], _ => by simp [appendLink]
  | [link], h => by
    unfold appendLink
    split <;> simp_all
  | link :: next :: rest, h => by
    have later :=
      nil_notMem_appendLink size e (next :: rest) (fun m => h (List.mem_cons_of_mem _ m))
    have first : [] ≠ link := fun eq => h (eq ▸ List.mem_cons_self)
    rw [appendLink, List.mem_cons, not_or]
    exact ⟨first, later⟩

theorem noGap_appendLink {size : Nat} (pos : 0 < size) (e : E) {links : List (List E)}
    (h : NoGap links) : NoGap (appendLink size e links) := by
  rcases h with rfl | h
  · have short : ¬ size ≤ 0 := by omega
    simp [appendLink, NoGap, short]
  · exact Or.inr (nil_notMem_appendLink size e links h)

/-- Dropping an emptied first link leaves no gap, as the links after it are not empty. -/
theorem noGap_dropDrained (link : List E) {rest : List (List E)} (h : [] ∉ rest) :
    NoGap (dropDrained (link :: rest)) := by
  cases link with
  | cons e link => exact Or.inr (by simpa [dropDrained] using h)
  | nil =>
    cases rest with
    | nil => exact Or.inl rfl
    | cons next rest => exact Or.inr h

theorem first?_eq_head? {links : List (List E)} (h : NoGap links) :
    first? links = links.flatten.head? := by
  rcases h with rfl | h
  · rfl
  · cases links with
    | nil => rfl
    | cons link rest =>
      cases link with
      | nil => exact absurd List.mem_cons_self h
      | cons e link => rfl

theorem Linked.append {q : ChainQueue E} (h : q.Linked) (e : E) :
    Linked { q with links := appendLink q.linkSize e q.links, count := q.count + 1 } where
  linkSize_pos := h.linkSize_pos
  count_eq := by simp [flatten_appendLink, h.count_eq]
  noGap := noGap_appendLink h.linkSize_pos e h.noGap

theorem Linked.poll {q : ChainQueue E} (h : q.Linked) :
    (poll q).1 = q.links.flatten.head? ∧ (poll q).2.links.flatten = q.links.flatten.tail ∧
      (poll q).2.Linked := by
  obtain ⟨size, links, count⟩ := q
  obtain ⟨pos, counted, gap⟩ := h
  rcases gap with rfl | gap
  · exact ⟨rfl, rfl, pos, counted, Or.inl rfl⟩
  · cases links with
    | nil => exact ⟨rfl, rfl, pos, counted, Or.inr gap⟩
    | cons link rest =>
      cases link with
      | nil => exact absurd List.mem_cons_self gap
      | cons e link =>
        have noGap := noGap_dropDrained link (fun m => gap (List.mem_cons_of_mem _ m))
        refine ⟨rfl, flatten_dropDrained (link :: rest), pos, ?_, noGap⟩
        change count - 1 = (dropDrained (link :: rest)).flatten.length
        rw [flatten_dropDrained]
        simp only [List.flatten_cons, List.length_append, List.length_cons] at counted ⊢
        omega

def Shows (q : ChainQueue E) (l : Fifo E) : Prop := q.Linked ∧ l = ⟨none, q.links.flatten⟩

theorem Shows.offer {q : ChainQueue E} {l : Fifo E} (h : q.Shows l) (e : E) :
    Agree Shows (Buffer.offer q e) (l.offer e) := by
  obtain ⟨linked, rfl⟩ := h
  rw [Fifo.offer_unbounded]
  refine ⟨rfl, linked.append e, ?_⟩
  change _ = (⟨none, (appendLink q.linkSize e q.links).flatten⟩ : Fifo E)
  rw [flatten_appendLink]

theorem Shows.poll {q : ChainQueue E} {l : Fifo E} (h : q.Shows l) :
    Agree Shows (Buffer.poll q) (l.items.head?, l.pop) := by
  obtain ⟨linked, rfl⟩ := h
  obtain ⟨head, tail, linked'⟩ := linked.poll
  refine ⟨head, linked', ?_⟩
  change (⟨none, q.links.flatten.tail⟩ : Fifo E) = ⟨none, (ChainQueue.poll q).2.links.flatten⟩
  rw [tail]

theorem Shows.peek {q : ChainQueue E} {l : Fifo E} (h : q.Shows l) :
    Agree Shows (Buffer.peek q) (l.items.head?, l) := by
  obtain ⟨linked, rfl⟩ := h
  exact ⟨first?_eq_head? linked.noGap, linked, rfl⟩

theorem follows : Follows (@Shows E) .plain where
  toList := by
    rintro q l ⟨_, rfl⟩
    rfl
  len := by
    rintro q l ⟨linked, rfl⟩
    exact linked.count_eq
  capacityClass := by
    rintro q l ⟨_, rfl⟩
    rfl
  remaining := by
    rintro q l _
    rfl
  offer h e := h.offer e
  poll h := h.poll
  peek h := h.peek
  clear := by
    rintro q l ⟨linked, rfl⟩
    exact ⟨⟨linked.linkSize_pos, rfl, Or.inr List.not_mem_nil⟩, rfl⟩

theorem represents : Represents (@Shows E) .plain :=
  follows.represents (by constructor <;> intros <;> rfl) rfl rfl

theorem pollsIdly : PollsIdly (@Shows E) := by
  rintro ⟨size, links, count⟩ l ⟨_, rfl⟩ none
  match links with
  | [] => rfl
  | [] :: rest => rfl
  | (e :: link) :: rest => cases none

end ChainQueue

namespace InboxQueue

def Counted (q : InboxQueue E) : Prop := q.count = (Buffer.toList q).length

theorem poll_fst (q : InboxQueue E) : q.poll.1 = (Buffer.toList q).head? := by
  rw [← takeHead_fst]
  unfold poll
  split <;> simp_all

theorem toList_poll (q : InboxQueue E) : Buffer.toList q.poll.2 = (Buffer.toList q).tail := by
  rw [← toList_takeHead]
  unfold poll
  split <;> simp_all [discount, Buffer.toList]

/-- The counter goes down exactly when there is an element to go. -/
theorem count_poll (q : InboxQueue E) :
    q.poll.2.count = if (Buffer.toList q).head?.isSome then q.count - 1 else q.count := by
  have kept := count_takeHead q
  rw [← takeHead_fst]
  unfold poll
  split <;> simp_all [discount]

theorem Counted.poll {q : InboxQueue E} (h : q.Counted) : q.poll.2.Counted := by
  unfold Counted at h ⊢
  rw [count_poll, toList_poll, h]
  cases Buffer.toList q <;> simp

def Shows (q : InboxQueue E) (l : Fifo E) : Prop := q.Counted ∧ l = ⟨none, Buffer.toList q⟩

theorem Shows.offer {q : InboxQueue E} {l : Fifo E} (h : q.Shows l) (e : E) :
    Agree Shows (Buffer.offer q e) (l.offer e) := by
  obtain ⟨counted, rfl⟩ := h
  rw [Fifo.offer_unbounded]
  have held : Buffer.toList (q.announce.send e) = Buffer.toList q ++ [e] := q.announce.toList_send e
  refine ⟨rfl, ?_, ?_⟩
  · change q.count + 1 = (Buffer.toList (q.announce.send e)).length
    rw [held, List.length_append, ← counted]
    rfl
  · change _ = (⟨none, Buffer.toList (q.announce.send e)⟩ : Fifo E)
    rw [held]

theorem Shows.poll {q : InboxQueue E} {l : Fifo E} (h : q.Shows l) :
    Agree Shows (Buffer.poll q) (l.items.head?, l.pop) := by
  obtain ⟨counted, rfl⟩ := h
  refine ⟨poll_fst q, counted.poll, ?_⟩
  change (⟨none, (Buffer.toList q).tail⟩ : Fifo E) = ⟨none, Buffer.toList q.poll.2⟩
  rw [toList_poll]

theorem Shows.peek {q : InboxQueue E} {l : Fifo E} (h : q.Shows l) :
    Agree Shows (Buffer.peek q) (l.items.head?, l) := by
  obtain ⟨counted, rfl⟩ := h
  refine ⟨cell_fillCell q, ?_, ?_⟩
  · change q.fillCell.count = (Buffer.toList q.fillCell).length
    rw [count_fillCell, toList_fillCell, counted]
  · change _ = (⟨none, Buffer.toList q.fillCell⟩ : Fifo E)
    rw [toList_fillCell]

theorem clear_eq_empty {q : InboxQueue E} (h : q.Counted) : q.clear = empty := by
  have total : q.count = q.cell.toList.length + q.channel.length := by
    simpa [Counted, Buffer.toList] using h
  have none_left : q.count - q.cell.toList.length - q.channel.length = 0 := by omega
  simp [clear, empty, none_left]

theorem follows : Follows (@Shows E) .plain where
  toList := by
    rintro q l ⟨_, rfl⟩
    rfl
  len := by
    rintro q l ⟨counted, rfl⟩
    exact counted
  capacityClass := by
    rintro q l ⟨_, rfl⟩
    rfl
  remaining := by
    rintro q l _
    rfl
  offer h e := h.offer e
  poll h := h.poll
  peek h := h.peek
  clear := by
    rintro q l ⟨counted, rfl⟩
    change Shows q.clear _
    rw [clear_eq_empty counted]
    exact ⟨rfl, rfl⟩

theorem represents : Represents (@Shows E) .plain :=
  follows.represents (by constructor <;> intros <;> rfl) rfl rfl

theorem pollsIdly : PollsIdly (@Shows E) := by
  rintro q l ⟨_, rfl⟩ none
  change q.poll = (.none, q)
  rw [poll, takeHead_of_nil none]

end InboxQueue

namespace PlainQueue

def Shows (q : PlainQueue E) (l : Fifo E) : Prop := l = ⟨none, q.contents⟩

theorem Shows.offer {q : PlainQueue E} {l : Fifo E} (h : q.Shows l) (e : E) :
    Agree Shows (Buffer.offer q e) (l.offer e) := by
  obtain rfl := h
  exact ⟨rfl, rfl⟩

theorem follows : Follows (@Shows E) .plain where
  toList := by
    rintro q l rfl
    rfl
  len := by
    rintro q l rfl
    rfl
  capacityClass := by
    rintro q l rfl
    rfl
  remaining := by
    rintro q l _
    rfl
  offer h e := h.offer e
  poll := by
    rintro q l rfl
    exact ⟨rfl, rfl⟩
  peek := by
    rintro q l rfl
    exact ⟨rfl, rfl⟩
  clear := by
    rintro q l rfl
    rfl

theorem represents : Represents (@Shows E) .plain :=
  follows.represents (by constructor <;> intros <;> rfl) rfl rfl

theorem pollsIdly : PollsIdly (@Shows E) := by
  rintro ⟨contents⟩ l rfl none
  obtain rfl : contents = [] := none
  rfl

end PlainQueue

/-- Whatever the calls, new unbounded queues of the three types give the results of one list, which
takes in whatever it is offered, in order. -/
theorem unbounded_queues_answer_as_list (linkSize : UInt64) :
    AnswersAs (ChainQueue.ofLinkSize linkSize : ChainQueue E) .plain (.fresh none) ∧
      AnswersAs (InboxQueue.empty : InboxQueue E) .plain (.fresh none) ∧
      AnswersAs (PlainQueue.empty : PlainQueue E) .plain (.fresh none) := by
  refine ⟨ChainQueue.represents.answersAs ?_, InboxQueue.represents.answersAs ?_,
    PlainQueue.represents.answersAs ?_⟩
  · exact ⟨ChainQueue.linked_ofLinkSize linkSize, rfl⟩
  · exact ⟨rfl, rfl⟩
  · exact rfl

end QueueSupply
