import Mathlib.Data.List.Chain
import Mathlib.Data.List.TakeWhile
import QueueSupply.Json.Value
import QueueSupply.Proofs.Json.Spelling

set_option autoImplicit false

/-!
How the tokens of a value are laid out in a text: spelled one after the other, with blanks before,
between and after them. The scan gives back the tokens that are laid out, provided that no two
numbers stand side by side, which they never do in a value.
-/

namespace QueueSupply.Json

inductive Laid : List Token → List Char → Prop
  | nil {blanks : List Char} (blank : ∀ c ∈ blanks, isSpace c = true) : Laid [] blanks
  | cons {blanks word text : List Char} {t : Token} {ts : List Token}
      (blank : ∀ c ∈ blanks, isSpace c = true) (spelt : Spelt t word) (others : Laid ts text) :
      Laid (t :: ts) (blanks ++ (word ++ text))

/-- Two tokens can be told apart without blanks between them. -/
def Token.Apart (a b : Token) : Prop := a.isNumber = true → b.isNumber = false

section Scanning

variable {text rest blanks word : List Char} {t : Token} {ts : List Token}

theorem isNumberChar_of_isSpace {c : Char} (space : isSpace c = true) : isNumberChar c = false := by
  simp only [isSpace, Bool.or_eq_true, beq_iff_eq] at space
  rcases space with ((rfl | rfl) | rfl) | rfl <;> decide

theorem isSpace_of_isNumberChar {c : Char} (number : isNumberChar c = true) :
    isSpace c = false := by
  cases space : isSpace c with
  | false => rfl
  | true =>
    rw [isNumberChar_of_isSpace space] at number
    cases number

theorem Spelt.first (spelt : Spelt t word) : ∃ c others, word = c :: others ∧ isSpace c = false ∧
    (t.isNumber = false → isNumberChar c = false) := by
  cases spelt with
  | @number n parts =>
    obtain ⟨c, others, literal, -⟩ := parts.chars.1
    have number_char := parts.chars.2 c (by simp [literal])
    exact ⟨c, others, literal, isSpace_of_isNumberChar number_char, fun other => by cases other⟩
  | string | openBrace | closeBrace | openBracket | closeBracket | comma | colon | null | boolTrue
  | boolFalse => exact ⟨_, _, rfl, by decide, fun _ => by decide⟩

theorem scan?_none_left (start : text.dropWhile isSpace = []) : scan? text = some [] := by
  unfold scan?
  split
  · rfl
  · next other => rw [start] at other; cases other

theorem scan?_step {c : Char} {after : List Char} (start : text.dropWhile isSpace = c :: after) :
    scan? text =
      (scanToken? (c :: after)).bind fun (t, rest) => (scan? rest).map (t :: ·) := by
  conv => lhs; unfold scan?
  split
  · next other => rw [start] at other; cases other
  · next c' after' same =>
    rw [start] at same
    obtain ⟨rfl, rfl⟩ := List.cons.inj same
    split
    · next failed => rw [failed]; rfl
    · next scanned => rw [scanned]; rfl

theorem scan?_blanks (blank : ∀ c ∈ blanks, isSpace c = true) (rest : List Char) :
    scan? (blanks ++ rest) = scan? rest := by
  have same : (blanks ++ rest).dropWhile isSpace = rest.dropWhile isSpace :=
    List.dropWhile_append_of_pos blank
  cases start : rest.dropWhile isSpace with
  | nil => rw [scan?_none_left start, scan?_none_left (same.trans start)]
  | cons c after => rw [scan?_step start, scan?_step (same.trans start)]

theorem scan?_word (spelt : Spelt t word) (halts : t.isNumber = true → Halts isNumberChar rest) :
    scan? (word ++ rest) = (scan? rest).map (t :: ·) := by
  have scanned := scanToken?_complete spelt halts
  obtain ⟨c, others, rfl, solid, -⟩ := spelt.first
  have start : (c :: (others ++ rest)).dropWhile isSpace = c :: (others ++ rest) := by
    simp [solid]
  rw [List.cons_append] at scanned ⊢
  rw [scan?_step start, scanned, Option.bind_some]

theorem scan?_sound (scanned : scan? text = some ts) : Laid ts text := by
  fun_induction scan? text generalizing ts with
  | case1 text start =>
    obtain rfl := Option.some.inj scanned
    exact .nil (List.dropWhile_eq_nil_iff.mp start)
  | case2 => cases scanned
  | case3 text c after start t rest step ih =>
    obtain ⟨ts', rest_scanned, rfl⟩ := Option.map_eq_some_iff.mp scanned
    obtain ⟨word, spelt, split⟩ := scanToken?_sound step
    have parts := List.takeWhile_append_dropWhile (p := isSpace) (l := text)
    rw [start, split] at parts
    rw [← parts]
    exact .cons (fun c mem => List.mem_takeWhile_imp mem) spelt (ih rest_scanned)

/-- After a number comes none of its characters, unless the next token is a number as well. -/
theorem Laid.halts (laid : Laid ts text) (apart : ∀ t ∈ ts.head?, t.isNumber = false)
    (rest_halts : ts = [] → Halts isNumberChar rest) : Halts isNumberChar (text ++ rest) := by
  have after_blanks {blanks after : List Char} (blank : ∀ c ∈ blanks, isSpace c = true)
      (halts : Halts isNumberChar after) : Halts isNumberChar (blanks ++ after) := by
    cases blanks with
    | nil => exact halts
    | cons c blanks => exact halts_cons (isNumberChar_of_isSpace (blank c List.mem_cons_self)) _
  cases laid with
  | nil blank => exact after_blanks blank (rest_halts rfl)
  | cons blank spelt others =>
    obtain ⟨c, word, rfl, -, other_char⟩ := spelt.first
    rw [List.append_assoc]
    exact after_blanks blank (halts_cons (other_char (apart _ rfl)) _)

theorem scan?_append (laid : Laid ts text) (apart : ts.IsChain Token.Apart)
    (halts : (∃ t ∈ ts.getLast?, t.isNumber = true) → Halts isNumberChar rest) :
    scan? (text ++ rest) = (scan? rest).map (ts ++ ·) := by
  induction laid with
  | nil blank => rw [scan?_blanks blank]; simp
  | @cons blanks word text t ts blank spelt others ih =>
    obtain ⟨next_apart, ts_apart⟩ := List.isChain_cons.mp apart
    have ts_halts : (∃ t ∈ ts.getLast?, t.isNumber = true) → Halts isNumberChar rest := by
      rintro ⟨last, mem, number⟩
      refine halts ⟨last, ?_, number⟩
      cases ts with
      | nil => cases mem
      | cons t' ts => rwa [List.getLast?_cons_cons]
    -- A number is read to its end: what comes next is a blank, another token, or the rest.
    have text_halts : t.isNumber = true → Halts isNumberChar (text ++ rest) := by
      intro number
      refine others.halts (fun t' mem => next_apart t' mem number) ?_
      rintro rfl
      exact halts ⟨t, rfl, number⟩
    rw [List.append_assoc, scan?_blanks blank, List.append_assoc, scan?_word spelt text_halts,
      ih ts_apart ts_halts, Option.map_map]
    rfl

end Scanning

section Apart

theorem apart_cons {t : Token} {ts : List Token} (other : t.isNumber = false)
    (apart : ts.IsChain Token.Apart) : (t :: ts).IsChain Token.Apart := by
  refine List.isChain_cons.mpr ⟨fun next _ number => ?_, apart⟩
  rw [other] at number
  cases number

-- What follows begins with a token that is no number, since a number may end the value.
mutual
theorem apart_tokens : (v : Json) → {t : Token} → {ts : List Token} → t.isNumber = false →
    (t :: ts).IsChain Token.Apart → (v.tokens ++ t :: ts).IsChain Token.Apart
  | .null, _, _, _, apart | .bool _, _, _, _, apart | .string _, _, _, _, apart =>
    apart_cons rfl apart
  | .number _, t, _, other, apart => by
    refine List.isChain_cons.mpr ⟨fun next mem _ => ?_, apart⟩
    obtain rfl : t = next := by simpa using mem
    exact other
  | .array items, _, _, _, apart => by
    rw [tokens, List.cons_append, List.append_assoc]
    exact apart_cons rfl (apart_itemTokens items rfl (apart_cons rfl apart))
  | .object members, _, _, _, apart => by
    rw [tokens, List.cons_append, List.append_assoc]
    exact apart_cons rfl (apart_memberTokens members rfl (apart_cons rfl apart))

theorem apart_itemTokens : (items : List Json) → {t : Token} → {ts : List Token} →
    t.isNumber = false → (t :: ts).IsChain Token.Apart →
      (itemTokens items ++ t :: ts).IsChain Token.Apart
  | [], _, _, _, apart => apart
  | [v], _, _, other, apart => apart_tokens v other apart
  | v :: w :: items, _, _, other, apart => by
    rw [itemTokens, List.append_assoc]
    exact apart_tokens v rfl (apart_cons rfl (apart_itemTokens (w :: items) other apart))

theorem apart_memberTokens : (members : List (List UInt16 × Json)) → {t : Token} →
    {ts : List Token} → t.isNumber = false → (t :: ts).IsChain Token.Apart →
      (memberTokens members ++ t :: ts).IsChain Token.Apart
  | [], _, _, _, apart => apart
  | [(_, v)], _, _, other, apart =>
    apart_cons rfl (apart_cons rfl (apart_tokens v other apart))
  | (_, v) :: member :: members, _, _, other, apart => by
    rw [memberTokens, List.cons_append, List.cons_append, List.append_assoc]
    have later := apart_memberTokens (member :: members) other apart
    exact apart_cons rfl (apart_cons rfl (apart_tokens v rfl (apart_cons rfl later)))
end

theorem isChain_tokens (v : Json) : v.tokens.IsChain Token.Apart :=
  (apart_tokens v (t := .comma) rfl (List.isChain_singleton _)).left_of_append

end Apart

/-- The text writes the value: it is the value's tokens with blanks around them. -/
def Written (v : Json) (text : List Char) : Prop := Laid v.tokens text

theorem Written.scan? {v : Json} {text : List Char} (written : Written v text) :
    scan? text = some v.tokens := by
  have scanned := scan?_append written (isChain_tokens v) (fun _ => halts_nil _)
  rw [List.append_nil, scan?_none_left List.dropWhile_nil] at scanned
  simpa using scanned

end QueueSupply.Json
