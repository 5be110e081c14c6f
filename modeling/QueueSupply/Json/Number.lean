import QueueSupply.Text.Numeral

set_option autoImplicit false

/-!
JSON number literals. A literal is kept as it is written, since `1e2`, `100.0` and `100` are one
number but only the last is a size.
-/

namespace QueueSupply.Json

def digits? : List Char → Option (List Char)
  | [] => none
  | c :: rest => if c.isDigit then some (rest.dropWhile Char.isDigit) else none

/-- The whole part has no leading zero. -/
def whole? : List Char → Option (List Char)
  | '0' :: rest => some rest
  | text => digits? text

def fraction? : List Char → Option (List Char)
  | '.' :: rest => digits? rest
  | text => some text

def dropSign : List Char → List Char
  | '+' :: rest => rest
  | '-' :: rest => rest
  | text => text

def exponent? : List Char → Option (List Char)
  | 'e' :: rest => digits? (dropSign rest)
  | 'E' :: rest => digits? (dropSign rest)
  | text => some text

def dropMinus : List Char → List Char
  | '-' :: rest => rest
  | text => text

def isLiteral (text : List Char) : Bool :=
  ((whole? (dropMinus text)).bind fraction?).bind exponent? == some []

theorem dropWhile_of_all {p : Char → Bool} : (text : List Char) → text.all p = true →
    text.dropWhile p = []
  | [], _ => rfl
  | c :: rest, h => by
    simp only [List.all_cons, Bool.and_eq_true] at h
    rw [List.dropWhile_cons_of_pos h.1]
    exact dropWhile_of_all rest h.2

theorem isLiteral_numeral (n : Nat) : isLiteral (Text.numeral n) = true := by
  have digits := Text.all_isDigit_numeral n
  have zero := Text.numeral_leading_zero n
  cases text : Text.numeral n with
  | nil => exact absurd text Nat.toDigits_ne_nil
  | cons c rest =>
    rw [text] at digits zero
    simp only [List.all_cons, Bool.and_eq_true] at digits
    have minus : dropMinus (c :: rest) = c :: rest := by
      unfold dropMinus
      split
      · next h =>
        rw [(List.cons.inj h).1] at digits
        exact absurd digits.1 (by decide)
      · rfl
    have whole : whole? (c :: rest) = some [] := by
      unfold whole?
      split
      · next h =>
        have hc := (List.cons.inj h).1
        have hr := (List.cons.inj h).2
        rw [← hr, zero rest (by rw [hc])]
      · simp [digits?, digits.1, dropWhile_of_all rest digits.2]
    simp [isLiteral, minus, whole, fraction?, exponent?]

structure Number where
  literal : List Char
  wellFormed : isLiteral literal = true
  deriving DecidableEq

def Number.ofNat (n : Nat) : Number := ⟨Text.numeral n, isLiteral_numeral n⟩

/-- The word that a literal of digits alone denotes. -/
def Number.size? (n : Number) : Option UInt64 := Text.readSize? n.literal

@[simp] theorem Number.size?_ofNat (n : UInt64) : (Number.ofNat n.toNat).size? = some n :=
  Text.readSize?_numeral n

def isNumberChar (c : Char) : Bool :=
  c.isDigit || c == '+' || c == '-' || c == '.' || c == 'e' || c == 'E'

/-- The literal that the longest run of number characters spells, and what follows it. -/
def scanNumber? (text : List Char) : Option (Number × List Char) :=
  if h : isLiteral (text.takeWhile isNumberChar) = true then
    some (⟨text.takeWhile isNumberChar, h⟩, text.dropWhile isNumberChar)
  else none

theorem scanNumber?_length {text rest : List Char} {n : Number}
    (h : scanNumber? text = some (n, rest)) : rest.length < text.length := by
  unfold scanNumber? at h
  split at h
  · next literal =>
    rw [← (Prod.mk.inj (Option.some.inj h)).2]
    have split := congrArg List.length
      (List.takeWhile_append_dropWhile (p := isNumberChar) (l := text))
    rw [List.length_append] at split
    have : text.takeWhile isNumberChar ≠ [] := fun nil => by
      rw [nil] at literal
      exact absurd literal (by decide)
    have := List.length_pos_iff.mpr this
    omega
  · exact absurd h (by simp)

end QueueSupply.Json
