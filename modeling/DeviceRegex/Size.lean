/-!
# Sizes

Sizes are 64-bit. Adding and multiplying them stop at the largest size instead of
wrapping round, or report that the result does not fit. All operations are given by
what they do to the value `toNat`.
-/
namespace DeviceRegex

/-- A size or count in 64 bits. -/
abbrev Size := UInt64

namespace Size

/-- The largest size. -/
def max : Nat := 0xFFFFFFFFFFFFFFFF

/-- The size closest to `n`: `n` itself, or the largest size. -/
def saturate (n : Nat) : Size := UInt64.ofNat (min n max)

@[simp] theorem toNat_saturate (n : Nat) : (saturate n).toNat = min n max := by
  have : min n max < 2 ^ 64 := by unfold max; omega
  rw [saturate, UInt64.toNat_ofNat', Nat.mod_eq_of_lt this]

/-- The sum, or the largest size if the sum is larger. -/
def satAdd (a b : Size) : Size := saturate (a.toNat + b.toNat)

/-- The product, or the largest size if the product is larger. -/
def satMul (a b : Size) : Size := saturate (a.toNat * b.toNat)

@[simp] theorem toNat_satAdd (a b : Size) : (satAdd a b).toNat = min (a.toNat + b.toNat) max := by
  simp [satAdd]

@[simp] theorem toNat_satMul (a b : Size) : (satMul a b).toNat = min (a.toNat * b.toNat) max := by
  simp [satMul]

/-- The size `n`, if it is one. -/
def ofNat? (n : Nat) : Option Size := if n ≤ max then some (UInt64.ofNat n) else none

theorem toNat_le_max (n : Size) : n.toNat ≤ max := Nat.le_of_lt_succ n.toNat_lt

theorem ofNat?_eq_some_iff {n : Nat} {size : Size} : ofNat? n = some size ↔ size.toNat = n := by
  rw [ofNat?]
  constructor
  · intro h
    split at h
    · rename_i hn
      have hsmall : n < 2 ^ 64 := Nat.lt_succ_of_le hn
      rw [← Option.some.inj h, UInt64.toNat_ofNat', Nat.mod_eq_of_lt hsmall]
    · cases h
  · intro h
    rw [← h, if_pos size.toNat_le_max, UInt64.ofNat_toNat]

/-- The sum, if it is a size. -/
def add? (a b : Size) : Option Size := ofNat? (a.toNat + b.toNat)

/-- The product, if it is a size. -/
def mul? (a b : Size) : Option Size := ofNat? (a.toNat * b.toNat)

end Size
end DeviceRegex
