import QueueSupply.Json.Number

set_option autoImplicit false

namespace QueueSupply.Json

open Text

/-- No character with the property begins the text. -/
def Halts (p : Char → Bool) (text : List Char) : Prop := ∀ c ∈ text.head?, p c = false

section Halting

variable {p : Char → Bool} {word rest : List Char}

theorem halts_nil (p : Char → Bool) : Halts p [] := by
  intro c mem
  simp at mem

theorem halts_cons {c : Char} (fails : p c = false) (rest : List Char) : Halts p (c :: rest) := by
  intro d mem
  obtain rfl : c = d := by simpa using mem
  exact fails

theorem dropWhile_of_halts (halts : Halts p rest) : rest.dropWhile p = rest := by
  cases rest with
  | nil => rfl
  | cons c rest => simp [halts c (by simp)]

theorem dropWhile_append (all : ∀ c ∈ word, p c = true) (halts : Halts p rest) :
    (word ++ rest).dropWhile p = rest := by
  rw [List.dropWhile_append_of_pos all, dropWhile_of_halts halts]

theorem takeWhile_append (all : ∀ c ∈ word, p c = true) (halts : Halts p rest) :
    (word ++ rest).takeWhile p = word := by
  have none_more : rest.takeWhile p = [] := by
    cases rest with
    | nil => rfl
    | cons c rest => simp [halts c (by simp)]
  rw [List.takeWhile_append_of_pos all, none_more, List.append_nil]

end Halting

inductive Whole : List Char → Prop
  | zero : Whole ['0']
  | digits {c : Char} {others : List Char} (first : c.isDigit = true) (nonzero : c ≠ '0')
      (all : ∀ d ∈ others, d.isDigit = true) : Whole (c :: others)

inductive Fraction : List Char → Prop
  | none : Fraction []
  | some {digits : List Char} (numeral : isNumeral digits = true) : Fraction ('.' :: digits)

inductive Exponent : List Char → Prop
  | none : Exponent []
  | some {e : Char} {sign digits : List Char} (letter : e = 'e' ∨ e = 'E')
      (sign_eq : sign = [] ∨ sign = ['+'] ∨ sign = ['-']) (numeral : isNumeral digits = true) :
      Exponent (e :: (sign ++ digits))

inductive NumberText : List Char → Prop
  | intro {minus whole fraction exponent : List Char} (minus_eq : minus = [] ∨ minus = ['-'])
      (whole_part : Whole whole) (fraction_part : Fraction fraction)
      (exponent_part : Exponent exponent) :
      NumberText (minus ++ (whole ++ (fraction ++ exponent)))

section Numbers

variable {text rest : List Char}

theorem exists_digit {digits : List Char} (numeral : isNumeral digits = true) :
    ∃ c others, digits = c :: others ∧ c.isDigit = true ∧ ∀ d ∈ others, d.isDigit = true := by
  obtain ⟨some_digit, all⟩ := isNumeral_iff.mp numeral
  cases digits with
  | nil => exact absurd rfl some_digit
  | cons c others =>
    have all_others : ∀ d ∈ others, d.isDigit = true := fun d mem =>
      all d (List.mem_cons_of_mem c mem)
    exact ⟨c, others, rfl, all c List.mem_cons_self, all_others⟩

theorem digits?_sound (read : digits? text = some rest) :
    ∃ digits, isNumeral digits = true ∧ text = digits ++ rest := by
  cases text with
  | nil => cases read
  | cons c text =>
    cases first : c.isDigit with
    | false => simp [digits?, first] at read
    | true =>
      obtain rfl : text.dropWhile Char.isDigit = rest := by simpa [digits?, first] using read
      refine ⟨c :: text.takeWhile Char.isDigit, ?_, ?_⟩
      · simp [isNumeral, first]
      · rw [List.cons_append, List.takeWhile_append_dropWhile]

theorem digits?_complete {digits : List Char} (numeral : isNumeral digits = true)
    (halts : Halts Char.isDigit rest) : digits? (digits ++ rest) = some rest := by
  obtain ⟨c, others, rfl, first, all⟩ := exists_digit numeral
  simp [digits?, first, dropWhile_append all halts]

theorem whole?_sound (read : whole? text = some rest) :
    ∃ whole, Whole whole ∧ text = whole ++ rest := by
  unfold whole? at read
  split at read
  · obtain rfl := Option.some.inj read
    exact ⟨['0'], .zero, rfl⟩
  · next nonzero =>
    obtain ⟨digits, numeral, rfl⟩ := digits?_sound read
    obtain ⟨c, others, rfl, first, all⟩ := exists_digit numeral
    refine ⟨c :: others, .digits first ?_ all, rfl⟩
    rintro rfl
    exact nonzero (others ++ rest) rfl

theorem whole?_complete {whole : List Char} (part : Whole whole) (halts : Halts Char.isDigit rest) :
    whole? (whole ++ rest) = some rest := by
  cases part with
  | zero => rfl
  | @digits c others first nonzero all =>
    unfold whole?
    split
    · next zero =>
      exact absurd (List.cons.inj zero).1 nonzero
    · exact digits?_complete (isNumeral_iff.mpr ⟨by simp, by simpa [first] using all⟩) halts

theorem fraction?_sound (read : fraction? text = some rest) :
    ∃ fraction, Fraction fraction ∧ text = fraction ++ rest := by
  unfold fraction? at read
  split at read
  · obtain ⟨digits, numeral, rfl⟩ := digits?_sound read
    exact ⟨'.' :: digits, .some numeral, rfl⟩
  · obtain rfl := Option.some.inj read
    exact ⟨[], .none, rfl⟩

/-- The digits before an exponent end there. -/
theorem Exponent.halts {exponent : List Char} (part : Exponent exponent) :
    Halts Char.isDigit exponent := by
  cases part with
  | none => exact halts_nil _
  | some letter => rcases letter with rfl | rfl <;> exact halts_cons (by decide) _

theorem Fraction.halts {fraction exponent : List Char} (part : Fraction fraction)
    (exponent_part : Exponent exponent) : Halts Char.isDigit (fraction ++ exponent) := by
  cases part with
  | none => exact exponent_part.halts
  | some numeral => exact halts_cons (by decide) _

theorem fraction?_complete {fraction exponent : List Char} (part : Fraction fraction)
    (exponent_part : Exponent exponent) : fraction? (fraction ++ exponent) = some exponent := by
  cases part with
  | none =>
    cases exponent_part with
    | none => rfl
    | some letter => rcases letter with rfl | rfl <;> rfl
  | some numeral => exact digits?_complete numeral exponent_part.halts

theorem dropSign_sound (text : List Char) :
    ∃ sign, (sign = [] ∨ sign = ['+'] ∨ sign = ['-']) ∧ text = sign ++ dropSign text := by
  unfold dropSign
  split
  · exact ⟨['+'], .inr (.inl rfl), rfl⟩
  · exact ⟨['-'], .inr (.inr rfl), rfl⟩
  · exact ⟨[], .inl rfl, rfl⟩

theorem dropSign_numeral {digits : List Char} (numeral : isNumeral digits = true) :
    dropSign digits = digits := by
  obtain ⟨c, others, rfl, first, all⟩ := exists_digit numeral
  unfold dropSign
  split
  · next signed =>
    rw [(List.cons.inj signed).1] at first
    exact absurd first (by decide)
  · next signed =>
    rw [(List.cons.inj signed).1] at first
    exact absurd first (by decide)
  · rfl

theorem signedDigits?_sound (read : digits? (dropSign text) = some rest) :
    ∃ sign digits, (sign = [] ∨ sign = ['+'] ∨ sign = ['-']) ∧ isNumeral digits = true ∧
      text = sign ++ digits ++ rest := by
  obtain ⟨sign, sign_eq, split⟩ := dropSign_sound text
  obtain ⟨digits, numeral, unsigned⟩ := digits?_sound read
  refine ⟨sign, digits, sign_eq, numeral, ?_⟩
  rw [List.append_assoc, ← unsigned]
  exact split

theorem exponent?_sound (read : exponent? text = some rest) :
    ∃ exponent, Exponent exponent ∧ text = exponent ++ rest := by
  unfold exponent? at read
  split at read
  · obtain ⟨sign, digits, sign_eq, numeral, rfl⟩ := signedDigits?_sound read
    exact ⟨'e' :: (sign ++ digits), .some (.inl rfl) sign_eq numeral, rfl⟩
  · obtain ⟨sign, digits, sign_eq, numeral, rfl⟩ := signedDigits?_sound read
    exact ⟨'E' :: (sign ++ digits), .some (.inr rfl) sign_eq numeral, rfl⟩
  · obtain rfl := Option.some.inj read
    exact ⟨[], .none, rfl⟩

theorem exponent?_complete {exponent : List Char} (part : Exponent exponent) :
    exponent? exponent = some [] := by
  cases part with
  | none => rfl
  | @some e sign digits letter sign_eq numeral =>
    have unsigned : digits? (dropSign (sign ++ digits)) = some [] := by
      have read := digits?_complete numeral (halts_nil Char.isDigit)
      rw [List.append_nil] at read
      rcases sign_eq with rfl | rfl | rfl
      · rw [List.nil_append, dropSign_numeral numeral, read]
      · exact read
      · exact read
    rcases letter with rfl | rfl
    · exact unsigned
    · exact unsigned

theorem dropMinus_sound (text : List Char) :
    ∃ minus, (minus = [] ∨ minus = ['-']) ∧ text = minus ++ dropMinus text := by
  unfold dropMinus
  split
  · exact ⟨['-'], .inr rfl, rfl⟩
  · exact ⟨[], .inl rfl, rfl⟩

theorem Whole.first {whole : List Char} (part : Whole whole) :
    ∃ c others, whole = c :: others ∧ c.isDigit = true ∧ ∀ d ∈ others, d.isDigit = true := by
  cases part with
  | zero => exact ⟨'0', [], rfl, by decide, by simp⟩
  | digits first nonzero all => exact ⟨_, _, rfl, first, all⟩

theorem dropMinus_complete {minus whole : List Char} (minus_eq : minus = [] ∨ minus = ['-'])
    (part : Whole whole) : dropMinus (minus ++ (whole ++ rest)) = whole ++ rest := by
  rcases minus_eq with rfl | rfl
  · obtain ⟨c, others, rfl, first, all⟩ := part.first
    unfold dropMinus
    split
    · next signed =>
      have minus : c = '-' := (List.cons.inj signed).1
      rw [minus] at first
      exact absurd first (by decide)
    · rfl
  · rfl

/-- The literals are the texts that are a whole part after at most one minus sign, then at most one
fraction, then at most one exponent. -/
theorem isLiteral_iff : isLiteral text = true ↔ NumberText text := by
  rw [isLiteral, beq_iff_eq]
  constructor
  · intro read
    obtain ⟨afterFraction, read, exponent_read⟩ := Option.bind_eq_some_iff.mp read
    obtain ⟨afterWhole, whole_read, fraction_read⟩ := Option.bind_eq_some_iff.mp read
    obtain ⟨minus, minus_eq, split⟩ := dropMinus_sound text
    obtain ⟨whole, whole_part, unsigned⟩ := whole?_sound whole_read
    obtain ⟨fraction, fraction_part, rfl⟩ := fraction?_sound fraction_read
    obtain ⟨exponent, exponent_part, rfl⟩ := exponent?_sound exponent_read
    rw [split, unsigned, List.append_nil]
    exact .intro minus_eq whole_part fraction_part exponent_part
  · intro parts
    cases parts with
    | @intro minus whole fraction exponent minus_eq whole_part fraction_part exponent_part =>
      have halts := fraction_part.halts exponent_part
      rw [dropMinus_complete minus_eq whole_part, whole?_complete whole_part halts,
        Option.bind_some, fraction?_complete fraction_part exponent_part, Option.bind_some,
        exponent?_complete exponent_part]

theorem isNumberChar_of_isDigit {c : Char} (digit : c.isDigit = true) : isNumberChar c = true := by
  simp [isNumberChar, digit]

/-- A literal begins with a minus sign or a digit and is made of number characters. -/
theorem NumberText.chars (parts : NumberText text) :
    (∃ c others, text = c :: others ∧ (c = '-' ∨ c.isDigit = true)) ∧
      ∀ c ∈ text, isNumberChar c = true := by
  have numeral_chars : ∀ digits, isNumeral digits = true → ∀ c ∈ digits, isNumberChar c = true :=
    fun digits numeral c mem => isNumberChar_of_isDigit ((isNumeral_iff.mp numeral).2 c mem)
  cases parts with
  | @intro minus whole fraction exponent minus_eq whole_part fraction_part exponent_part =>
    obtain ⟨d, others, rfl, first, all⟩ := whole_part.first
    constructor
    · rcases minus_eq with rfl | rfl
      · exact ⟨d, others ++ (fraction ++ exponent), rfl, .inr first⟩
      · exact ⟨'-', d :: others ++ (fraction ++ exponent), rfl, .inl rfl⟩
    · intro c mem
      simp only [List.mem_append, List.mem_cons] at mem
      rcases mem with minus | (rfl | whole) | fraction | exponent
      · rcases minus_eq with rfl | rfl
        · cases minus
        · obtain rfl := List.mem_singleton.mp minus
          decide
      · exact isNumberChar_of_isDigit first
      · exact isNumberChar_of_isDigit (all c whole)
      · cases fraction_part with
        | none => cases fraction
        | some numeral =>
          rcases List.mem_cons.mp fraction with rfl | digit
          · decide
          · exact numeral_chars _ numeral c digit
      · cases exponent_part with
        | none => cases exponent
        | some letter sign_eq numeral =>
          rcases List.mem_cons.mp exponent with rfl | signed
          · rcases letter with rfl | rfl <;> decide
          · rcases List.mem_append.mp signed with sign | digit
            · rcases sign_eq with rfl | rfl | rfl
              · cases sign
              · obtain rfl := List.mem_singleton.mp sign
                decide
              · obtain rfl := List.mem_singleton.mp sign
                decide
            · exact numeral_chars _ numeral c digit

theorem scanNumber?_sound {n : Number} (scanned : scanNumber? text = some (n, rest)) :
    text = n.literal ++ rest := by
  unfold scanNumber? at scanned
  split at scanned
  · obtain ⟨rfl, rfl⟩ := Prod.mk.inj (Option.some.inj scanned)
    exact List.takeWhile_append_dropWhile.symm
  · cases scanned

theorem scanNumber?_complete (n : Number) (halts : Halts isNumberChar rest) :
    scanNumber? (n.literal ++ rest) = some (n, rest) := by
  have all := (isLiteral_iff.mp n.wellFormed).chars.2
  unfold scanNumber?
  simp only [takeWhile_append all halts, dropWhile_append all halts, n.wellFormed, dite_true]

end Numbers

end QueueSupply.Json
