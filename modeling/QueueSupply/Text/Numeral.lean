set_option autoImplicit false

namespace QueueSupply.Text

def isNumeral (text : List Char) : Bool := !text.isEmpty && text.all Char.isDigit

def numeralValue (text : List Char) : Nat := Nat.ofDigitChars 10 text 0

def numeral (n : Nat) : List Char := Nat.toDigits 10 n

def readSize? (text : List Char) : Option UInt64 :=
  if isNumeral text && decide (numeralValue text < UInt64.size) then
    some (UInt64.ofNat (numeralValue text))
  else none

def readPlusSize? : List Char → Option UInt64
  | '+' :: text => readSize? text
  | text => readSize? text

theorem all_isDigit_numeral (n : Nat) : (numeral n).all Char.isDigit = true :=
  List.all_eq_true.mpr fun _ h => Nat.isDigit_of_mem_toDigits (by decide) (by decide) h

theorem isNumeral_numeral (n : Nat) : isNumeral (numeral n) = true := by
  have h : (numeral n).isEmpty = false := by simp [numeral, Nat.toDigits_ne_nil]
  simp [isNumeral, all_isDigit_numeral, h]

@[simp] theorem numeralValue_numeral (n : Nat) : numeralValue (numeral n) = n :=
  Nat.ofDigitChars_ten_toDigits

@[simp] theorem readSize?_numeral (n : UInt64) : readSize? (numeral n.toNat) = some n := by
  simp [readSize?, isNumeral_numeral, n.toNat_lt_size]

theorem isNumeral_iff {text : List Char} :
    isNumeral text = true ↔ text ≠ [] ∧ ∀ c ∈ text, c.isDigit = true := by
  simp [isNumeral, List.all_eq_true]

theorem readSize?_eq_some_iff {text : List Char} {size : UInt64} :
    readSize? text = some size ↔ isNumeral text = true ∧ numeralValue text = size.toNat := by
  unfold readSize?
  by_cases word : isNumeral text = true ∧ numeralValue text < UInt64.size
  · have back : (UInt64.ofNat (numeralValue text)).toNat = numeralValue text :=
      UInt64.toNat_ofNat_of_lt word.2
    simp [word, ← UInt64.toNat_inj, back]
  · have small := size.toNat_lt_size
    simp only [Bool.and_eq_true, decide_eq_true_eq, word, if_false]
    constructor
    · intro none_read
      cases none_read
    · intro writes
      exact absurd ⟨writes.1, by omega⟩ word

/-- A plus sign is no digit, so it is always taken for a sign. -/
theorem readPlusSize?_eq_some_iff {text : List Char} {size : UInt64} :
    readPlusSize? text = some size ↔ ∃ sign digits, text = sign ++ digits ∧
      (sign = [] ∨ sign = ['+']) ∧ isNumeral digits = true ∧ numeralValue digits = size.toNat := by
  constructor
  · intro read
    unfold readPlusSize? at read
    split at read
    · next digits => exact ⟨['+'], digits, rfl, .inr rfl, readSize?_eq_some_iff.mp read⟩
    · exact ⟨[], text, rfl, .inl rfl, readSize?_eq_some_iff.mp read⟩
  · rintro ⟨sign, digits, rfl, rfl | rfl, writes⟩
    · unfold readPlusSize?
      split
      · next rest signed =>
        rw [List.nil_append] at signed
        rw [signed, isNumeral] at writes
        simp at writes
      · exact readSize?_eq_some_iff.mpr writes
    · exact readSize?_eq_some_iff.mpr writes

/-- Leading zeros do not change what a numeral is worth. -/
theorem numeralValue_zeros (zeros : Nat) (digits : List Char) :
    numeralValue (List.replicate zeros '0' ++ digits) = numeralValue digits := by
  induction zeros with
  | zero => rfl
  | succ zeros ih => exact ih

/-- Only the numeral of zero begins with a zero, and it has no further digit. -/
theorem numeral_leading_zero (n : Nat) (rest : List Char) (h : numeral n = '0' :: rest) :
    rest = [] := by
  have digit : ∀ m, m < 10 → m.digitChar = '0' → m = 0 := by decide
  have key : ∀ n, ∀ rest, numeral n = '0' :: rest → n = 0 := by
    intro n
    induction n using Nat.strongRecOn with
    | ind n ih =>
      intro rest h
      by_cases hn : n < 10
      · rw [numeral, Nat.toDigits_of_lt_base hn] at h
        exact digit n hn (List.cons.inj h).1
      · rw [numeral, Nat.toDigits_of_base_le (by decide) (by omega)] at h
        obtain ⟨c, tail, hc⟩ :=
          List.exists_cons_of_ne_nil (Nat.toDigits_ne_nil (n := n / 10) (b := 10))
        rw [hc] at h
        have : numeral (n / 10) = '0' :: tail := by rw [numeral, hc, (List.cons.inj h).1]
        have := ih (n / 10) (by omega) tail this
        omega
  have h0 := key n rest h
  subst h0
  exact ((List.cons.inj h).2).symm

end QueueSupply.Text
