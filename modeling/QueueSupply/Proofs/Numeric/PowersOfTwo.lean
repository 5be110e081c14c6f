import Mathlib.Algebra.Order.Ring.Int
import QueueSupply.Numeric.PowerOfTwo

set_option autoImplicit false

/-!
What rounding up to a power of two gives, for every signed word. The shift that is made is the
number of binary digits of the word before the argument, and it is at most `k` exactly when the
argument is at most `2 ^ k`. So the result is the least power of two that is not below the
argument, as long as there is one among the words.
-/

namespace QueueSupply

def IsPower (p : Int64) : Prop := ∃ k ≤ 62, p.toInt = 2 ^ k

structure RoundsUp (x p : Int64) : Prop where
  power : IsPower p
  le : x ≤ p
  least : ∀ k : Nat, x.toInt ≤ 2 ^ k → p.toInt ≤ 2 ^ k

section Digits

theorem bitLength_add_clz (w : UInt64) : bitLength w + w.toBitVec.clz.toNat = 64 := by
  have within : w.toBitVec.clz.toNat ≤ 64 := BitVec.le_def.mp BitVec.clz_le
  rw [bitLength]
  omega

theorem bitLength_le_iff (w : UInt64) (k : Nat) : bitLength w ≤ k ↔ w.toNat < 2 ^ k := by
  have below : w.toNat < 2 ^ bitLength w := BitVec.toNat_lt_two_pow_sub_clz
  constructor
  · intro le
    exact Nat.lt_of_lt_of_le below (Nat.pow_le_pow_right (by decide) le)
  · intro lt
    by_cases zero : w.toBitVec = 0#64
    · have all_zeros : w.toBitVec.clz = 64#64 := BitVec.clz_eq_iff_eq_zero.mpr zero
      rw [bitLength, all_zeros]
      exact Nat.zero_le k
    · -- The leading digit is a one, so the word is at least the power of two of its place.
      have above := BitVec.two_pow_sub_clz_le_toNat_of_ne_zero (by decide) zero
      have place := (Nat.pow_lt_pow_iff_right (by decide)).mp (Nat.lt_of_le_of_lt above lt)
      rw [bitLength]
      omega

/-- A word with one digit that is a one is the power of two of the digit's place. -/
theorem bitCount_eq_one_iff (w : UInt64) : bitCount w = 1 ↔ ∃ k < 64, w.toNat = 2 ^ k := by
  rw [bitCount, List.countP_eq_length_filter, List.length_eq_one_iff]
  constructor
  · rintro ⟨k, only⟩
    have mem_iff (i : Nat) : i < 64 ∧ w.toNat.testBit i = true ↔ i = k := by
      rw [← List.mem_range, ← List.mem_filter, only, List.mem_singleton]
    refine ⟨k, ((mem_iff k).mpr rfl).1, Nat.eq_of_testBit_eq fun i => ?_⟩
    rw [Nat.testBit_two_pow]
    by_cases low : i < 64
    · by_cases at_k : k = i
      · rw [decide_eq_true at_k]
        exact ((mem_iff i).mpr at_k.symm).2
      · rw [decide_eq_false at_k, Bool.eq_false_iff]
        exact fun one => at_k ((mem_iff i).mp ⟨low, one⟩).symm
    · have high : w.toNat < 2 ^ i :=
        Nat.lt_of_lt_of_le w.toNat_lt (Nat.pow_le_pow_right (by decide) (Nat.not_lt.mp low))
      have lt := ((mem_iff k).mpr rfl).1
      rw [Nat.testBit_lt_two_pow high, decide_eq_false (by omega)]
  · rintro ⟨k, lt, eq⟩
    have digits : (2 ^ k).testBit = (· == k) := by
      funext i
      rw [Nat.testBit_two_pow, Bool.eq_iff_iff, decide_eq_true_iff, beq_iff_eq, eq_comm]
    have once : (List.range 64).count k = 1 := by rw [List.count_range, if_pos lt]
    refine ⟨k, ?_⟩
    rw [eq, digits, List.filter_beq, once]
    rfl

end Digits

section Words

variable {x y p q : Int64}

theorem toInt_sub_one (positive : 0 < x.toInt) : (x - 1).toInt = x.toInt - 1 := by
  have lt := x.toInt_lt
  have one : (1 : Int64).toInt = 1 := rfl
  rw [Int64.toInt_sub, one, Int.bmod_eq_of_le (by omega) (by omega)]

theorem toNat_toUInt64 (nonneg : 0 ≤ x.toInt) : (x.toUInt64.toNat : Int) = x.toInt := by
  have lt := x.toUInt64.toNat_lt
  have cond : x.toInt = if 2 * x.toUInt64.toNat < 2 ^ 64 then (x.toUInt64.toNat : Int)
      else (x.toUInt64.toNat : Int) - (2 ^ 64 : Nat) := BitVec.toInt_eq_toNat_cond x.toBitVec
  split at cond <;> omega

theorem toInt_toInt64 {w : UInt64} (fits : w.toNat < 2 ^ 63) : w.toInt64.toInt = w.toNat := by
  have cond : w.toInt64.toInt = if 2 * w.toNat < 2 ^ 64 then (w.toNat : Int)
      else (w.toNat : Int) - (2 ^ 64 : Nat) := BitVec.toInt_eq_toNat_cond w.toBitVec
  rw [cond, if_pos (by omega)]

theorem toInt_one_shiftLeft {k : Nat} (lt : k < 63) :
    ((1 : Int64) <<< Int64.ofNat k).toInt = 2 ^ k := by
  have all : ∀ k < 63, ((1 : Int64) <<< Int64.ofNat k).toInt = 2 ^ k := by decide
  exact all k lt

theorem isPowerOfTwo_iff : isPowerOfTwo x = true ↔ IsPower x := by
  rw [isPowerOfTwo, Bool.and_eq_true, decide_eq_true_iff, beq_iff_eq, bitCount_eq_one_iff,
    Int64.lt_iff_toInt_lt]
  have zero : (0 : Int64).toInt = 0 := rfl
  rw [zero, IsPower]
  constructor
  · rintro ⟨positive, k, -, eq⟩
    have same := toNat_toUInt64 (Int.le_of_lt positive)
    have lt := x.toInt_lt
    have place : k < 63 := (Nat.pow_lt_pow_iff_right (a := 2) (by decide)).mp (by omega)
    refine ⟨k, by omega, ?_⟩
    rw [← same, eq]
    exact Int.natCast_pow 2 k
  · rintro ⟨k, le, eq⟩
    have positive : 0 < x.toInt := eq ▸ Int.pow_pos (by decide)
    have same := toNat_toUInt64 (Int.le_of_lt positive)
    refine ⟨positive, k, by omega, ?_⟩
    rw [eq] at same
    exact_mod_cast same

/-- The shift that is made says between which powers of two the argument is. -/
theorem shift_le_iff (positive : 0 < x.toInt) (k : Nat) :
    bitLength (x - 1).toUInt64 ≤ k ↔ x.toInt ≤ 2 ^ k := by
  have before := toInt_sub_one positive
  have same := toNat_toUInt64 (x := x - 1) (by omega)
  have power : ((2 ^ k : Nat) : Int) = 2 ^ k := Int.natCast_pow 2 k
  rw [bitLength_le_iff]
  omega

theorem RoundsUp.le_of_le (up : RoundsUp x p) (le : x ≤ y) (other : RoundsUp y q) : p ≤ q := by
  obtain ⟨k, -, worth⟩ := other.power
  have below := Int64.le_trans le other.le
  rw [Int64.le_iff_toInt_le, worth] at below ⊢
  exact up.least k below

theorem roundsUp_self (power : IsPower x) : RoundsUp x x := ⟨power, Int64.le_refl x, fun _ le => le⟩

theorem IsPower.bounds (power : IsPower p) : 0 < p.toInt ∧ p.toInt ≤ 2 ^ 62 := by
  obtain ⟨k, le, worth⟩ := power
  rw [worth]
  exact ⟨Int.pow_pos (by decide), pow_le_pow_right₀ (by decide) le⟩

inductive Rounded (x : Int64) : Except SizingError Int64 → Prop
  | notPositive (nonpos : x.toInt ≤ 0) : Rounded x (.error (.notPositive x))
  | tooLarge (large : 2 ^ 62 < x.toInt) : Rounded x (.error (.tooLarge x))
  | power {p : Int64} (positive : 0 < x.toInt) (fits : x.toInt ≤ 2 ^ 62) (up : RoundsUp x p) :
      Rounded x (.ok p)

theorem rounded_ceilingPowerOfTwo (x : Int64) : Rounded x (ceilingPowerOfTwo x) := by
  rw [ceilingPowerOfTwo]
  by_cases nonpos : x ≤ 0
  · rw [if_pos nonpos]
    exact .notPositive (Int64.le_iff_toInt_le.mp nonpos)
  rw [if_neg nonpos]
  have positive : 0 < x.toInt := Int.not_le.mp fun le => nonpos (Int64.le_iff_toInt_le.mpr le)
  have shift := shift_le_iff positive
  change Rounded x (if 63 ≤ bitLength (x - 1).toUInt64 then _ else _)
  by_cases large : 63 ≤ bitLength (x - 1).toUInt64
  · rw [if_pos large]
    refine .tooLarge (Int.not_le.mp fun fits => ?_)
    have short := (shift 62).mpr fits
    omega
  rw [if_neg large]
  have worth := toInt_one_shiftLeft (Nat.not_le.mp large)
  refine .power positive ((shift 62).mp (by omega)) ⟨⟨_, by omega, worth⟩, ?_, ?_⟩
  · rw [Int64.le_iff_toInt_le, worth]
    exact (shift _).mp (Nat.le_refl _)
  · intro k le
    rw [worth]
    exact pow_le_pow_right₀ (by decide) ((shift k).mpr le)

/-- The result is a power of two exactly where there is one that is not below the argument, and then
it is the least of these. -/
theorem ceilingPowerOfTwo_eq_ok_iff :
    ceilingPowerOfTwo x = .ok p ↔ 0 < x.toInt ∧ RoundsUp x p := by
  have rounded := rounded_ceilingPowerOfTwo x
  constructor
  · intro ok
    rw [ok] at rounded
    cases rounded with
    | power positive fits up => exact ⟨positive, up⟩
  · rintro ⟨positive, up⟩
    have below := Int64.le_iff_toInt_le.mp up.le
    have bounds := up.power.bounds
    generalize ceilingPowerOfTwo x = result at rounded
    cases rounded with
    | notPositive | tooLarge => omega
    | power _ _ least =>
      have same := Int64.le_antisymm (least.le_of_le (Int64.le_refl x) up)
        (up.le_of_le (Int64.le_refl x) least)
      rw [same]

theorem ceilingPowerOfTwo_eq_notPositive_iff :
    ceilingPowerOfTwo x = .error (.notPositive x) ↔ x.toInt ≤ 0 := by
  have rounded := rounded_ceilingPowerOfTwo x
  generalize ceilingPowerOfTwo x = result at rounded
  cases rounded with
  | notPositive nonpos => exact iff_of_true rfl nonpos
  | tooLarge | power => exact iff_of_false nofun (by omega)

theorem ceilingPowerOfTwo_eq_tooLarge_iff :
    ceilingPowerOfTwo x = .error (.tooLarge x) ↔ 2 ^ 62 < x.toInt := by
  have rounded := rounded_ceilingPowerOfTwo x
  generalize ceilingPowerOfTwo x = result at rounded
  cases rounded with
  | tooLarge large => exact iff_of_true rfl large
  | notPositive | power => exact iff_of_false nofun (by omega)

theorem exists_ceilingPowerOfTwo (positive : 0 < x.toInt) (fits : x.toInt ≤ 2 ^ 62) :
    ∃ p, ceilingPowerOfTwo x = .ok p ∧ RoundsUp x p := by
  have rounded := rounded_ceilingPowerOfTwo x
  generalize ceilingPowerOfTwo x = result at rounded
  cases rounded with
  | power _ _ up => exact ⟨_, rfl, up⟩
  | notPositive | tooLarge => omega

/-- No step of the computation leaves the words. -/
structure StaysInWords (x : Int64) : Prop where
  predecessor : (x - 1).toInt = x.toInt - 1
  leadingZeros : (x - 1).toUInt64.toBitVec.clz.toNat ≤ 64
  shift : x.toInt ≤ 2 ^ 62 → bitLength (x - 1).toUInt64 < 63 ∧
    ((1 : Int64) <<< Int64.ofNat (bitLength (x - 1).toUInt64)).toInt =
      2 ^ bitLength (x - 1).toUInt64

theorem staysInWords (positive : 0 < x.toInt) : StaysInWords x where
  predecessor := toInt_sub_one positive
  leadingZeros := by
    have digits := bitLength_add_clz (x - 1).toUInt64
    omega
  shift fits := by
    have shift := (shift_le_iff positive 62).mpr fits
    exact ⟨by omega, toInt_one_shiftLeft (by omega)⟩

/-- A word of zero or less is refused as such and a word above `2 ^ 62` as too large, no others
are, and each other word is rounded up to the least power of two that is not below it, without
overflow on the way. The powers of two are the words `2 ^ k` with `k` up to 62, which are those
that are rounded up to themselves, so rounding up twice is rounding up once, and it keeps the
order. -/
theorem rounds_up_to_least_power (x : Int64) :
    (ceilingPowerOfTwo x = .error (.notPositive x) ↔ x.toInt ≤ 0) ∧
      (ceilingPowerOfTwo x = .error (.tooLarge x) ↔ 2 ^ 62 < x.toInt) ∧
      (0 < x.toInt → x.toInt ≤ 2 ^ 62 → ∃ p, ceilingPowerOfTwo x = .ok p ∧ RoundsUp x p) ∧
      (0 < x.toInt → StaysInWords x) ∧
      (isPowerOfTwo x = true ↔ ∃ k ≤ 62, x.toInt = 2 ^ k) ∧
      (isPowerOfTwo x = true ↔ ceilingPowerOfTwo x = .ok x) ∧
      (∀ p, ceilingPowerOfTwo x = .ok p → ceilingPowerOfTwo p = .ok p) ∧
      (∀ y p q, x ≤ y → ceilingPowerOfTwo x = .ok p → ceilingPowerOfTwo y = .ok q → p ≤ q) := by
  refine ⟨ceilingPowerOfTwo_eq_notPositive_iff, ceilingPowerOfTwo_eq_tooLarge_iff,
    exists_ceilingPowerOfTwo, staysInWords, isPowerOfTwo_iff, ?_, ?_, ?_⟩
  · rw [isPowerOfTwo_iff, ceilingPowerOfTwo_eq_ok_iff]
    exact ⟨fun power => ⟨power.bounds.1, roundsUp_self power⟩, fun up => up.2.power⟩
  · intro p ok
    have power := (ceilingPowerOfTwo_eq_ok_iff.mp ok).2.power
    exact ceilingPowerOfTwo_eq_ok_iff.mpr ⟨power.bounds.1, roundsUp_self power⟩
  · intro y p q le okx oky
    exact (ceilingPowerOfTwo_eq_ok_iff.mp okx).2.le_of_le le (ceilingPowerOfTwo_eq_ok_iff.mp oky).2

/-- The word after the largest power of two. -/
example : ceilingPowerOfTwo 4611686018427387905 = .error (.tooLarge 4611686018427387905) := by
  decide

end Words

end QueueSupply
