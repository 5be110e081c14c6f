import Mathlib.Order.Bounds.Basic
import QueueSupply.Proofs.Numeric.PowersOfTwo
import QueueSupply.Supplier.Table

set_option autoImplicit false

namespace QueueSupply

namespace ChainQueue

section Sizes

variable {m n : UInt64}

theorem toNat_clampLinkSize (n : UInt64) :
    (clampLinkSize n).toNat = max 1 (min n.toNat (2 ^ 30)) := by
  have limit : maxLinkSize.toNat = 2 ^ 30 := rfl
  unfold clampLinkSize
  split
  · next low =>
    have zero : n.toNat < 1 := UInt64.lt_iff_toNat_lt.mp low
    have one : (1 : UInt64).toNat = 1 := rfl
    omega
  · next not_low =>
    have positive : 1 ≤ n.toNat := UInt64.le_iff_toNat_le.mp (UInt64.not_lt.mp not_low)
    split
    · next high =>
      have above := UInt64.lt_iff_toNat_lt.mp high
      omega
    · next not_high =>
      have within := UInt64.le_iff_toNat_le.mp (UInt64.not_lt.mp not_high)
      omega

theorem toInt_clampLinkSize (n : UInt64) :
    (clampLinkSize n).toInt64.toInt = max 1 (min n.toNat (2 ^ 30) : Nat) := by
  have worth := toNat_clampLinkSize n
  rw [toInt_toInt64 (by omega), worth]

/-- What a size is clamped to can always be rounded up. -/
theorem exists_roundsUp_clampLinkSize (n : UInt64) :
    ∃ p, ceilingPowerOfTwo (clampLinkSize n).toInt64 = .ok p ∧
      RoundsUp (clampLinkSize n).toInt64 p := by
  have worth := toInt_clampLinkSize n
  exact exists_ceilingPowerOfTwo (by omega) (by omega)

theorem linkSizeFor_of_ok {p : Int64} (ok : ceilingPowerOfTwo (clampLinkSize n).toInt64 = .ok p) :
    linkSizeFor n = max p.toUInt64.toNat 8 := by
  rw [linkSizeFor, ok]
  rfl

/-- The power of two that a size is rounded up to, before links of less than 8 elements are ruled
out. -/
theorem exists_power (n : UInt64) :
    ∃ k, linkSizeFor n = max (2 ^ k) 8 ∧ ∀ j, min n.toNat (2 ^ 30) ≤ 2 ^ j ↔ k ≤ j := by
  obtain ⟨p, ok, up⟩ := exists_roundsUp_clampLinkSize n
  obtain ⟨k, -, worth⟩ := up.power
  have clamped := toInt_clampLinkSize n
  have size : p.toUInt64.toNat = 2 ^ k := by
    have same := toNat_toUInt64 (Int.le_of_lt up.power.bounds.1)
    rw [worth] at same
    exact_mod_cast same
  refine ⟨k, by rw [linkSizeFor_of_ok ok, size], fun j => ?_⟩
  -- No power of two is below 1, so raising the size to 1 makes no difference.
  have one : 1 ≤ 2 ^ j := Nat.one_le_two_pow
  have natural : ((2 ^ j : Nat) : Int) = 2 ^ j := Int.natCast_pow 2 j
  constructor
  · intro le
    have below := up.least j (by omega)
    rw [worth] at below
    exact (Nat.pow_le_pow_iff_right (a := 2) (by decide)).mp (by exact_mod_cast below)
  · intro le
    have above := Int64.le_iff_toInt_le.mp up.le
    have grows : 2 ^ k ≤ 2 ^ j := Nat.pow_le_pow_right (by decide) le
    have power : ((2 ^ k : Nat) : Int) = 2 ^ k := Int.natCast_pow 2 k
    omega

theorem isPowerOfTwo_max {p q : Nat} (left : p.isPowerOfTwo) (right : q.isPowerOfTwo) :
    (max p q).isPowerOfTwo := by
  rcases Nat.le_total p q with le | le
  · rwa [Nat.max_eq_right le]
  · rwa [Nat.max_eq_left le]

theorem isLeast_linkSizeFor (n : UInt64) :
    IsLeast {p : Nat | p.isPowerOfTwo ∧ max 8 (min n.toNat (2 ^ 30)) ≤ p} (linkSizeFor n) := by
  obtain ⟨k, size, least⟩ := exists_power n
  rw [size]
  refine ⟨⟨isPowerOfTwo_max ⟨k, rfl⟩ ⟨3, rfl⟩, ?_⟩, ?_⟩
  · have enough := (least k).mpr (Nat.le_refl k)
    omega
  · rintro q ⟨⟨j, rfl⟩, le⟩
    have power : 2 ^ k ≤ 2 ^ j := Nat.pow_le_pow_right (by decide) ((least j).mp (by omega))
    omega

theorem linkSizeFor_bounds (n : UInt64) : 8 ≤ linkSizeFor n ∧ linkSizeFor n ≤ 2 ^ 30 := by
  have least := isLeast_linkSizeFor n
  have enough := least.1.2
  exact ⟨by omega, least.2 ⟨⟨30, rfl⟩, by omega⟩⟩

theorem linkSizeFor_of_large (large : 2 ^ 30 ≤ n.toNat) : linkSizeFor n = 2 ^ 30 := by
  have bounds := linkSizeFor_bounds n
  have enough := (isLeast_linkSizeFor n).1.2
  omega

theorem linkSizeFor_le_of_le (le : m ≤ n) : linkSizeFor m ≤ linkSizeFor n := by
  have toNat_le := UInt64.le_iff_toNat_le.mp le
  refine (isLeast_linkSizeFor m).2 ⟨(isLeast_linkSizeFor n).1.1, ?_⟩
  have enough := (isLeast_linkSizeFor n).1.2
  omega

/-- A link size fits itself best. -/
theorem linkSizeFor_linkSizeFor (n : UInt64) :
    linkSizeFor (.ofNat (linkSizeFor n)) = linkSizeFor n := by
  have bounds := linkSizeFor_bounds n
  have power := (isLeast_linkSizeFor n).1.1
  have again := isLeast_linkSizeFor (.ofNat (linkSizeFor n))
  rw [UInt64.toNat_ofNat_of_lt' (Nat.lt_of_le_of_lt bounds.2 (by decide))] at again
  refine again.unique ⟨⟨power, by omega⟩, ?_⟩
  rintro q ⟨-, le⟩
  omega

end Sizes

end ChainQueue

section Kinds

variable {E : Type} {c : Config} {requested : UInt64}

/-- The size that is meant when links of a size are requested. -/
def linkRequest (c : Config) (requested : UInt64) : UInt64 :=
  if requested = SupplierTable.unboundedRequest ∧ c.xs ≠ SupplierTable.unboundedRequest then c.small
  else requested

theorem linkRequest_of_ne (bounded : requested ≠ SupplierTable.unboundedRequest) :
    linkRequest c requested = requested :=
  if_neg fun top => bounded top.1

theorem linkRequest_xs (c : Config) : linkRequest c c.xs = c.xs := if_neg fun top => top.2 top.1

theorem linkRequest_small (c : Config) : linkRequest c c.small = c.small := ite_self c.small

theorem linkRequest_unboundedRequest (xs : c.xs ≠ SupplierTable.unboundedRequest) :
    linkRequest c SupplierTable.unboundedRequest = c.small :=
  if_pos ⟨rfl, xs⟩

theorem resolveLinked_ofConfig (c : Config) (requested : UInt64) :
    (SupplierTable.ofConfig c).resolveLinked requested =
      if requested = c.xs then .xsUnbounded
      else if requested = SupplierTable.unboundedRequest ∨ requested = c.small then .smallUnbounded
      else .unboundedLinked requested := rfl

theorem build_resolveLinked (c : Config) (requested : UInt64) :
    ((SupplierTable.ofConfig c).resolveLinked requested).build c =
      (.chain (.ofLinkSize (linkRequest c requested)) : AnyQueue E) := by
  rw [resolveLinked_ofConfig]
  split
  · next xs =>
    rw [xs, linkRequest_xs]
    rfl
  split
  · next xs special =>
    rcases special with rfl | rfl
    · rw [linkRequest_unboundedRequest (Ne.symm xs)]
      rfl
    · rw [linkRequest_small]
      rfl
  · next xs plain =>
    rw [linkRequest_of_ne fun top => plain (.inl top)]
    rfl

/-- The link size of a new chain is the least power of two that is not below what is asked for, at
least 8 and at most `2 ^ 30`. So it lies between these, it keeps the order, and a link size that is
asked for is met. Rounding up never fails on the way. Whichever kind is found for a request, the
chain that is built is a new one for the size that is requested, but for the largest word, which
stands for the configured small size, unless it is the configured extra small size. -/
theorem link_size_is_least_power (E : Type) :
    (∀ n : UInt64, IsLeast {p : Nat | p.isPowerOfTwo ∧ max 8 (min n.toNat (2 ^ 30)) ≤ p}
        (ChainQueue.ofLinkSize n : ChainQueue E).linkSize) ∧
      (∀ n, 8 ≤ ChainQueue.linkSizeFor n ∧ ChainQueue.linkSizeFor n ≤ 2 ^ 30) ∧
      (∀ m n, m ≤ n → ChainQueue.linkSizeFor m ≤ ChainQueue.linkSizeFor n) ∧
      (∀ n, ChainQueue.linkSizeFor (.ofNat (ChainQueue.linkSizeFor n)) = ChainQueue.linkSizeFor n) ∧
      (∀ n, ∃ p, ceilingPowerOfTwo (ChainQueue.clampLinkSize n).toInt64 = .ok p ∧
        ChainQueue.linkSizeFor n = max p.toUInt64.toNat 8) ∧
      (∀ (c : Config) (n : UInt64), n ≠ 18446744073709551615 →
        ((SupplierTable.ofConfig c).resolveLinked n).build c =
          (.chain (.ofLinkSize n) : AnyQueue E)) ∧
      (∀ c : Config, c.xs ≠ 18446744073709551615 →
        ((SupplierTable.ofConfig c).resolveLinked 18446744073709551615).build c =
          (.chain (.ofLinkSize c.small) : AnyQueue E)) ∧
      (∀ c : Config, c.xs = 18446744073709551615 → ∃ q : ChainQueue E,
        ((SupplierTable.ofConfig c).resolveLinked 18446744073709551615).build c = .chain q ∧
          q.linkSize = 2 ^ 30) := by
  refine ⟨ChainQueue.isLeast_linkSizeFor, ChainQueue.linkSizeFor_bounds,
    fun m n => ChainQueue.linkSizeFor_le_of_le, ChainQueue.linkSizeFor_linkSizeFor, ?_, ?_, ?_, ?_⟩
  · intro n
    obtain ⟨p, ok, -⟩ := ChainQueue.exists_roundsUp_clampLinkSize n
    exact ⟨p, ok, ChainQueue.linkSizeFor_of_ok ok⟩
  · intro c n bounded
    rw [build_resolveLinked, linkRequest_of_ne bounded]
  · intro c xs
    rw [← SupplierTable.unboundedRequest, build_resolveLinked, linkRequest_unboundedRequest xs]
  · intro c xs
    have large : ChainQueue.linkSizeFor 18446744073709551615 = 2 ^ 30 :=
      ChainQueue.linkSizeFor_of_large (by decide)
    refine ⟨.ofLinkSize 18446744073709551615, ?_, large⟩
    rw [build_resolveLinked, ← xs, linkRequest_xs]

theorem link_size_is_least_power_largestXs :
    (Config.ofSizes 18446744073709551615 16).xs = 18446744073709551615 ∧ ∃ q : ChainQueue Nat,
      ((SupplierTable.ofConfig (.ofSizes 18446744073709551615 16)).resolveLinked
        18446744073709551615).build (.ofSizes 18446744073709551615 16) = .chain q ∧
          q.linkSize = 2 ^ 30 := by
  have largest : (Config.ofSizes 18446744073709551615 16).xs = 18446744073709551615 := by decide
  exact ⟨largest, (link_size_is_least_power Nat).2.2.2.2.2.2.2 _ largest⟩

end Kinds

end QueueSupply
