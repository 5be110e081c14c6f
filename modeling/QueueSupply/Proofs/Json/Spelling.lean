import QueueSupply.Json.Token
import QueueSupply.Proofs.Json.Numbers

set_option autoImplicit false

namespace QueueSupply.Json

open Text

inductive HexDigit : Char → Nat → Prop
  | lower {n : Nat} (below : n < 16) : HexDigit n.digitChar n
  | upper {n : Nat} (below : n < 16) : HexDigit n.digitChar.toUpper n

def shortEscapes : List (Char × Char) :=
  [('"', '"'), ('\\', '\\'), ('/', '/'), ('b', '\x08'), ('f', '\x0c'), ('n', '\n'), ('r', '\r'),
    ('t', '\t')]

/-- The units of one character or escape in the body of a string. -/
inductive Chunk : List UInt16 → List Char → Prop
  | plain {c : Char} (no_quote : c ≠ '"') (no_backslash : c ≠ '\\') (no_control : 0x20 ≤ c.toNat) :
      Chunk (unitsOfChar c) [c]
  | short {c meant : Char} (escape : (c, meant) ∈ shortEscapes) :
      Chunk (unitsOfChar meant) ['\\', c]
  | hex {a b c d : Char} {i j k l : Nat} {u : UInt16} (first : HexDigit a i) (second : HexDigit b j)
      (third : HexDigit c k) (fourth : HexDigit d l)
      (worth : u.toNat = ((i * 16 + j) * 16 + k) * 16 + l) : Chunk [u] ['\\', 'u', a, b, c, d]

inductive Body : List UInt16 → List Char → Prop
  | nil : Body [] []
  | cons {front units : List UInt16} {word text : List Char} (chunk : Chunk front word)
      (rest : Body units text) : Body (front ++ units) (word ++ text)

inductive Spelt : Token → List Char → Prop
  | openBrace : Spelt .openBrace ['\x7b']
  | closeBrace : Spelt .closeBrace ['\x7d']
  | openBracket : Spelt .openBracket ['[']
  | closeBracket : Spelt .closeBracket [']']
  | comma : Spelt .comma [',']
  | colon : Spelt .colon [':']
  | null : Spelt .null ['n', 'u', 'l', 'l']
  | boolTrue : Spelt (.bool true) ['t', 'r', 'u', 'e']
  | boolFalse : Spelt (.bool false) ['f', 'a', 'l', 's', 'e']
  | number {n : Number} (text : NumberText n.literal) : Spelt (.number n) n.literal
  | string {units : List UInt16} {body : List Char} (spelt : Body units body) :
      Spelt (.string units) ('"' :: (body ++ ['"']))

section Strings

variable {text rest : List Char} {units : List UInt16}

theorem hexDigit?_eq_some_iff {c : Char} {n : Nat} : hexDigit? c = some n ↔ HexDigit c n := by
  constructor
  · intro read
    have digits : ∀ m < 58, 48 ≤ m → (m - 48).digitChar = Char.ofNat m := by decide
    have lower : ∀ m < 103, 97 ≤ m → (m - 97 + 10).digitChar = Char.ofNat m := by decide
    have upper : ∀ m < 71, 65 ≤ m → (m - 65 + 10).digitChar.toUpper = Char.ofNat m := by decide
    simp only [hexDigit?, Char.isDigit, Bool.and_eq_true, decide_eq_true_eq, ge_iff_le, Char.le_def,
      UInt32.le_iff_toNat_le] at read
    change (if 48 ≤ c.toNat ∧ c.toNat ≤ 57 then some (c.toNat - 48) else
      if 97 ≤ c.toNat ∧ c.toNat ≤ 102 then some (c.toNat - 97 + 10) else
      if 65 ≤ c.toNat ∧ c.toNat ≤ 70 then some (c.toNat - 65 + 10) else none) = some n at read
    split at read
    · next range =>
      obtain rfl : c.toNat - 48 = n := Option.some.inj read
      have digit := HexDigit.lower (n := c.toNat - 48) (by omega)
      rwa [digits c.toNat (by omega) range.1, Char.ofNat_toNat] at digit
    split at read
    · next range =>
      obtain rfl : c.toNat - 97 + 10 = n := Option.some.inj read
      have digit := HexDigit.lower (n := c.toNat - 97 + 10) (by omega)
      rwa [lower c.toNat (by omega) range.1, Char.ofNat_toNat] at digit
    split at read
    · next range =>
      obtain rfl : c.toNat - 65 + 10 = n := Option.some.inj read
      have digit := HexDigit.upper (n := c.toNat - 65 + 10) (by omega)
      rwa [upper c.toNat (by omega) range.1, Char.ofNat_toNat] at digit
    · cases read
  · intro digit
    have lower : ∀ n < 16, hexDigit? n.digitChar = some n := by decide
    have upper : ∀ n < 16, hexDigit? n.digitChar.toUpper = some n := by decide
    cases digit with
    | lower below => exact lower n below
    | upper below => exact upper n below

theorem HexDigit.lt {c : Char} {n : Nat} (digit : HexDigit c n) : n < 16 := by
  cases digit with
  | lower below => exact below
  | upper below => exact below

theorem hexUnit?_eq_some_iff {a b c d : Char} {u : UInt16} : hexUnit? a b c d = some u ↔
    ∃ i j k l, HexDigit a i ∧ HexDigit b j ∧ HexDigit c k ∧ HexDigit d l ∧
      u.toNat = ((i * 16 + j) * 16 + k) * 16 + l := by
  constructor
  · intro read
    simp only [hexUnit?, Option.bind_eq_bind, Option.bind_eq_some_iff, hexDigit?_eq_some_iff]
      at read
    obtain ⟨i, first, j, second, k, third, l, fourth, worth⟩ := read
    have unit := Option.some.inj worth
    refine ⟨i, j, k, l, first, second, third, fourth, ?_⟩
    have := first.lt
    have := second.lt
    have := third.lt
    have := fourth.lt
    rw [← unit]
    exact UInt16.toNat_ofNat_of_lt (show _ < 65536 by omega)
  · rintro ⟨i, j, k, l, first, second, third, fourth, worth⟩
    simp only [hexUnit?, hexDigit?_eq_some_iff.mpr first, hexDigit?_eq_some_iff.mpr second,
      hexDigit?_eq_some_iff.mpr third, hexDigit?_eq_some_iff.mpr fourth, Option.bind_eq_bind,
      Option.bind_some, ← worth, UInt16.ofNat_toNat]
    rfl

theorem shortEscape?_eq_some_iff {c meant : Char} :
    shortEscape? c = some meant ↔ (c, meant) ∈ shortEscapes := by
  simp only [shortEscape?, shortEscapes, List.mem_cons, Prod.mk.injEq, List.not_mem_nil, or_false]
  grind

theorem control_iff (c : Char) : c < ' ' ↔ c.toNat < 0x20 := by
  rw [Char.lt_def, UInt32.lt_iff_toNat_lt]
  rfl

theorem scanUnits?_sound (scanned : scanUnits? text = some (units, rest)) :
    ∃ word, Chunk units word ∧ text = word ++ rest := by
  unfold scanUnits? at scanned
  split at scanned
  · cases scanned
  · next a b c d after =>
    obtain ⟨u, unit, eq⟩ := Option.map_eq_some_iff.mp scanned
    obtain ⟨rfl, rfl⟩ := Prod.mk.inj eq
    obtain ⟨i, j, k, l, first, second, third, fourth, worth⟩ := hexUnit?_eq_some_iff.mp unit
    exact ⟨['\\', 'u', a, b, c, d], .hex first second third fourth worth, rfl⟩
  · next c after not_hex =>
    obtain ⟨meant, escape, eq⟩ := Option.map_eq_some_iff.mp scanned
    obtain ⟨rfl, rfl⟩ := Prod.mk.inj eq
    exact ⟨['\\', c], .short (shortEscape?_eq_some_iff.mp escape), rfl⟩
  · next c after _ _ =>
    split at scanned
    · cases scanned
    · next allowed =>
      obtain ⟨rfl, rfl⟩ := Prod.mk.inj (Option.some.inj scanned)
      rw [control_iff, not_or, not_or, Nat.not_lt] at allowed
      exact ⟨[c], .plain allowed.2.1 allowed.1 allowed.2.2, rfl⟩

theorem scanUnits?_complete {word : List Char} (chunk : Chunk units word) (rest : List Char) :
    scanUnits? (word ++ rest) = some (units, rest) := by
  cases chunk with
  | @plain c no_quote no_backslash no_control =>
    have allowed : ¬ (c = '\\' ∨ c = '"' ∨ c < ' ') := by
      rw [control_iff]
      simp [no_quote, no_backslash, no_control]
    unfold scanUnits?
    split
    · next none_left => cases none_left
    · next same => exact absurd (List.cons.inj same).1 no_backslash
    · next same => exact absurd (List.cons.inj same).1 no_backslash
    · next same =>
      obtain ⟨rfl, rfl⟩ := List.cons.inj same
      rw [if_neg allowed]
      rfl
  | @short c meant escape =>
    have short := shortEscape?_eq_some_iff.mpr escape
    have not_hex : c ≠ 'u' := by
      rintro rfl
      cases short
    unfold scanUnits?
    split
    · next none_left => cases none_left
    · next same => exact absurd (List.cons.inj (List.cons.inj same).2).1 not_hex
    · next same =>
      obtain ⟨rfl, rfl⟩ := List.cons.inj (List.cons.inj same).2
      rw [short]
      rfl
    · next not_short same =>
      exact absurd same.symm (by simpa using not_short _ _)
  | hex first second third fourth worth =>
    have unit := hexUnit?_eq_some_iff.mpr ⟨_, _, _, _, first, second, third, fourth, worth⟩
    simp only [List.cons_append, List.nil_append, scanUnits?, unit, Option.map_some]

theorem Chunk.first {word : List Char} (chunk : Chunk units word) :
    ∃ c others, word = c :: others ∧ c ≠ '"' := by
  cases chunk with
  | plain no_quote no_backslash no_control => exact ⟨_, [], rfl, no_quote⟩
  | short escape => exact ⟨'\\', _, rfl, by decide⟩
  | hex first second third fourth worth => exact ⟨'\\', _, rfl, by decide⟩

theorem scanString?_complete {body : List Char} (spelt : Body units body) (rest : List Char) :
    scanString? (body ++ '"' :: rest) = some (units, rest) := by
  induction spelt with
  | nil => simp [scanString?]
  | @cons front units word text chunk _ ih =>
    have scanned := scanUnits?_complete chunk (text ++ '"' :: rest)
    have no_quote : ∀ after, word ++ (text ++ '"' :: rest) = '"' :: after → False := by
      intro after same
      obtain ⟨c, others, rfl, other⟩ := chunk.first
      exact other (List.cons.inj same).1
    rw [List.append_assoc, scanString?.eq_2 _ no_quote]
    split
    · next nothing =>
      rw [scanned] at nothing
      cases nothing
    · next front' after' found =>
      rw [scanned] at found
      obtain ⟨rfl, rfl⟩ := Prod.mk.inj (Option.some.inj found)
      rw [ih]
      rfl

theorem scanString?_sound (scanned : scanString? text = some (units, rest)) :
    ∃ body, Body units body ∧ text = body ++ '"' :: rest := by
  fun_induction scanString? text generalizing units rest with
  | case1 after =>
    obtain ⟨rfl, rfl⟩ := Prod.mk.inj (Option.some.inj scanned)
    exact ⟨[], .nil, rfl⟩
  | case2 => cases scanned
  | case3 text _ front middle step ih =>
    obtain ⟨⟨tail, last⟩, inner, eq⟩ := Option.map_eq_some_iff.mp scanned
    obtain ⟨rfl, rfl⟩ := Prod.mk.inj eq
    obtain ⟨word, chunk, rfl⟩ := scanUnits?_sound step
    obtain ⟨body, spelt, rfl⟩ := ih inner
    exact ⟨word ++ body, .cons chunk spelt, (List.append_assoc _ _ _).symm⟩

end Strings

def Token.isNumber : Token → Bool
  | .number _ => true
  | _ => false

section Tokens

variable {text rest word : List Char} {t : Token}

theorem scanToken?_sound (scanned : scanToken? text = some (t, rest)) :
    ∃ word, Spelt t word ∧ text = word ++ rest := by
  unfold scanToken? at scanned
  split at scanned
  case h_10 =>
    obtain ⟨⟨units, after⟩, body_scanned, eq⟩ := Option.map_eq_some_iff.mp scanned
    obtain ⟨rfl, rfl⟩ := Prod.mk.inj eq
    obtain ⟨body, spelt, rfl⟩ := scanString?_sound body_scanned
    exact ⟨'"' :: (body ++ ['"']), .string spelt, by simp⟩
  case h_11 =>
    obtain ⟨⟨n, after⟩, number_scanned, eq⟩ := Option.map_eq_some_iff.mp scanned
    obtain ⟨rfl, rfl⟩ := Prod.mk.inj eq
    exact ⟨n.literal, .number (isLiteral_iff.mp n.wellFormed), scanNumber?_sound number_scanned⟩
  all_goals obtain ⟨rfl, rfl⟩ := Prod.mk.inj (Option.some.inj scanned)
  · exact ⟨_, .openBrace, rfl⟩
  · exact ⟨_, .closeBrace, rfl⟩
  · exact ⟨_, .openBracket, rfl⟩
  · exact ⟨_, .closeBracket, rfl⟩
  · exact ⟨_, .comma, rfl⟩
  · exact ⟨_, .colon, rfl⟩
  · exact ⟨_, .null, rfl⟩
  · exact ⟨_, .boolTrue, rfl⟩
  · exact ⟨_, .boolFalse, rfl⟩

/-- A text that begins like a number is read as one. -/
theorem scanToken?_of_number {c : Char} {others : List Char}
    (begins : c = '-' ∨ c.isDigit = true) :
    scanToken? (c :: others) =
      (scanNumber? (c :: others)).map fun (n, rest) => (.number n, rest) := by
  unfold scanToken?
  split
  case h_11 => rfl
  all_goals
    next same =>
      rw [(List.cons.inj same).1] at begins
      exact absurd begins (by decide)

theorem scanToken?_complete (spelt : Spelt t word)
    (halts : t.isNumber = true → Halts isNumberChar rest) :
    scanToken? (word ++ rest) = some (t, rest) := by
  cases spelt with
  | @number n text =>
    obtain ⟨c, others, literal, begins⟩ := text.chars.1
    have scanned := scanNumber?_complete n (halts rfl)
    rw [literal, List.cons_append] at scanned ⊢
    rw [scanToken?_of_number begins, scanned]
    rfl
  | @string units body spelt =>
    have scanned := scanString?_complete spelt rest
    simp [scanToken?, scanned]
  | openBrace | closeBrace | openBracket | closeBracket | comma | colon | null | boolTrue
  | boolFalse => rfl

end Tokens

end QueueSupply.Json
