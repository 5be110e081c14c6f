import QueueSupply.Config.Lookup

set_option autoImplicit false

namespace QueueSupply.Config

open Text

inductive Writes (size : UInt64) : List Char → Prop
  | intro {before sign digits after : List Char} (blank_before : ∀ c ∈ before, isBlank c = true)
      (sign_eq : sign = [] ∨ sign = ['+']) (some_digit : digits ≠ [])
      (all_digits : ∀ c ∈ digits, c.isDigit = true) (worth : numeralValue digits = size.toNat)
      (blank_after : ∀ c ∈ after, isBlank c = true) :
      Writes size (before ++ (sign ++ digits) ++ after)

theorem isBlank_signed {sign digits : List Char} (sign_eq : sign = [] ∨ sign = ['+'])
    (all_digits : ∀ c ∈ digits, c.isDigit = true) : ∀ c ∈ sign ++ digits, isBlank c = false := by
  intro c mem
  rcases List.mem_append.mp mem with signed | digit
  · rcases sign_eq with rfl | rfl
    · simp at signed
    · obtain rfl := List.mem_singleton.mp signed
      decide
  · exact isBlank_of_isDigit (all_digits c digit)

theorem readSize?_eq_some_iff {text : String} {size : UInt64} :
    readSize? text = some size ↔ Writes size text.toList := by
  unfold readSize?
  rw [readPlusSize?_eq_some_iff]
  constructor
  · rintro ⟨sign, digits, core, sign_eq, numeral, worth⟩
    obtain ⟨some_digit, all_digits⟩ := isNumeral_iff.mp numeral
    obtain ⟨before, after, split, blank_before, blank_after⟩ := exists_trim text.toList
    rw [split, core]
    exact .intro blank_before sign_eq some_digit all_digits worth blank_after
  · intro writes
    generalize text.toList = chars at writes
    cases writes with
    | @intro before sign digits after blank_before sign_eq some_digit all_digits worth
        blank_after =>
      refine ⟨sign, digits, ?_, sign_eq, isNumeral_iff.mpr ⟨some_digit, all_digits⟩, worth⟩
      exact trim_append blank_before (by simp [some_digit]) (isBlank_signed sign_eq all_digits)
        blank_after

def Gives (lookup : String → Option String) (key : String) (missing size : UInt64) : Prop :=
  match lookup key with
  | none => size = missing
  | some text => Writes size text.toList

/-- The error that the lookup gives for the key: there is a text, and it writes no size. -/
def Spoils (lookup : String → Option String) (key : String) (e : ConfigError) : Prop :=
  ∃ text, lookup key = some text ∧ (∀ size, ¬ Writes size text.toList) ∧ e = ⟨key, text⟩

variable {lookup : String → Option String} {key : String} {missing : UInt64}

theorem lookupSize_eq_ok_iff {size : UInt64} :
    lookupSize lookup key missing = .ok size ↔ Gives lookup key missing size := by
  unfold lookupSize Gives
  cases lookup key with
  | none => simp [eq_comm]
  | some text =>
    simp only [← readSize?_eq_some_iff]
    cases readSize? text with
    | none => simp
    | some read => simp

theorem lookupSize_eq_error_iff {e : ConfigError} :
    lookupSize lookup key missing = .error e ↔ Spoils lookup key e := by
  unfold lookupSize Spoils
  cases lookup key with
  | none => simp
  | some text =>
    simp only [← readSize?_eq_some_iff]
    cases read : readSize? text with
    | none => simp [read, eq_comm]
    | some size => simp [read]

theorem writes_padded {size : UInt64} {before after : List Char} (zeros : Nat)
    (blank_before : ∀ c ∈ before, isBlank c = true) (blank_after : ∀ c ∈ after, isBlank c = true) :
    Writes size (before ++ (List.replicate zeros '0' ++ numeral size.toNat) ++ after) := by
  have worth : numeralValue (List.replicate zeros '0' ++ numeral size.toNat) = size.toNat := by
    rw [numeralValue_zeros, numeralValue_numeral]
  rw [← List.nil_append (List.replicate zeros '0' ++ numeral size.toNat)]
  refine .intro blank_before (.inl rfl) ?_ ?_ worth blank_after
  · simp [numeral, Nat.toDigits_ne_nil]
  · intro c mem
    rcases List.mem_append.mp mem with zero | digit
    · rw [(List.mem_replicate.mp zero).2]
      decide
    · exact List.all_eq_true.mp (all_isDigit_numeral size.toNat) c digit

/-- A lookup gives the configuration of the two sizes that it gives, with 32 and 256 for those it
has no text for, and an error in no other case. The text of the extra small size is the one that is
reported if both are bad. In particular a size in decimal, between blanks and after any zeros, is
read as that size. -/
theorem lookup_gives_written_sizes (lookup : String → Option String) :
    (∀ c, ofLookup lookup = .ok c ↔ ∃ xs small, Gives lookup xsKey 32 xs ∧
        Gives lookup smallKey 256 small ∧ c = ofSizes xs small) ∧
      (∀ e, ofLookup lookup = .error e ↔ Spoils lookup xsKey e ∨
        (∃ xs, Gives lookup xsKey 32 xs) ∧ Spoils lookup smallKey e) ∧
      (∀ (size : UInt64) (zeros : Nat) (before after : List Char),
        (∀ c ∈ before, isBlank c = true) → (∀ c ∈ after, isBlank c = true) →
          readSize? (String.ofList (before ++ (List.replicate zeros '0' ++ numeral size.toNat) ++
            after)) = some size) := by
  have xs_given (xs : UInt64) : lookupSize lookup xsKey defaultXs = .ok xs ↔
      Gives lookup xsKey 32 xs := lookupSize_eq_ok_iff
  have small_given (small : UInt64) : lookupSize lookup smallKey defaultSmall = .ok small ↔
      Gives lookup smallKey 256 small := lookupSize_eq_ok_iff
  have xs_spoilt (e : ConfigError) : lookupSize lookup xsKey defaultXs = .error e ↔
      Spoils lookup xsKey e := lookupSize_eq_error_iff
  have small_spoilt (e : ConfigError) : lookupSize lookup smallKey defaultSmall = .error e ↔
      Spoils lookup smallKey e := lookupSize_eq_error_iff
  refine ⟨?_, ?_, ?_⟩
  · intro c
    simp only [← xs_given, ← small_given, ofLookup]
    cases lookupSize lookup xsKey defaultXs with
    | error e => simp
    | ok xs =>
      cases lookupSize lookup smallKey defaultSmall with
      | error e => simp
      | ok small => simp [eq_comm]
  · intro e
    simp only [← xs_given, ← xs_spoilt, ← small_spoilt, ofLookup]
    cases lookupSize lookup xsKey defaultXs with
    | error e => simp
    | ok xs =>
      cases lookupSize lookup smallKey defaultSmall with
      | error e => simp
      | ok small => simp
  · intro size zeros before after blank_before blank_after
    rw [readSize?_eq_some_iff, String.toList_ofList]
    exact writes_padded zeros blank_before blank_after

end QueueSupply.Config
