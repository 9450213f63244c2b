import FlowDeck.Plane.Box
import Mathlib

/-!
# The sign of a double

The double nearest to a quotient has the sign of the quotient. So a length that is not above zero is read as a
double that is not (`pos_of_pixels`).
-/

namespace FlowDeck

open Float.Model (UnpackedFloat)
open Float.Model.UnpackedFloat (Sign pack unpack packComponents unpackSign unpackExponent unpackSign_packComponents
  unpackExponent_packComponents)

namespace Number

/-- A number that has this sign. Zeros and infinities have one. -/
def Signed (s : Sign) : UnpackedFloat → Prop
  | .notANumber => False
  | .infinity t | .zero t | .finite t _ _ _ => t = s

variable {s : Sign} {u : UnpackedFloat} {x : Float}

theorem Signed.neg (h : Signed s u) : Signed (-s) u.neg := by
  cases u with
  | notANumber => cases h
  | infinity t | zero t | finite t m e hm => exact congrArg _ h

/-! ## Packing -/

/-- What is not written with the highest exponent is a number with the sign in front. -/
theorem signed_unpack (bits : BitVec 64) (h : @unpackExponent .binary64 bits ≠ -1#_) :
    Signed (Sign.ofBitVec (@unpackSign .binary64 bits)) (unpack .binary64 bits) := by
  unfold unpack
  rw [if_neg h]
  split
  · split <;> rfl
  · rfl

theorem signed_packed (s : Sign) {exponent} (mantissa) (h : exponent ≠ -1#_) :
    Signed s (unpack .binary64 (packComponents _ s exponent mantissa)) := by
  have signed := signed_unpack (packComponents .binary64 s exponent mantissa)
    (by rwa [unpackExponent_packComponents])
  rwa [unpackSign_packComponents, Sign.ofBitVec_toBitVec] at signed

/-- A number keeps its sign when it is packed, even if it becomes an infinity. -/
theorem Signed.packed (h : Signed s u) : Signed s (unpack .binary64 (pack .binary64 u)) := by
  have infinite : Signed s (unpack .binary64 (pack .binary64 (.infinity s))) := by cases s <;> rfl
  cases u with
  | notANumber => cases h
  | infinity t =>
    cases h
    exact infinite
  | zero t =>
    cases h
    exact signed_packed _ _ (by decide)
  | finite t m e hm =>
    cases h
    unfold pack
    dsimp only
    split
    · exact infinite
    next short =>
    split
    · refine signed_packed _ _ fun high => ?_
      have field : _ % 2 ^ 11 = 2047 := congrArg BitVec.toNat high
      rw [Nat.mod_eq_of_lt (by omega)] at field
      omega
    · exact signed_packed _ _ (by decide)

/-! ## Doubles -/

theorem le_zero_of_signed (h : Signed .negative x.toModel.unpack) : x ≤ 0 := by
  refine decide_eq_true (p := x.toModel ≤ (0 : Float).toModel) ?_
  have zero : (0 : Float).toModel.unpack = .zero .positive := rfl
  change UnpackedFloat.le x.toModel.unpack (0 : Float).toModel.unpack = true
  rw [zero]
  generalize x.toModel.unpack = u at h
  cases u with
  | notANumber => cases h
  | infinity t | zero t | finite t m e hm =>
    cases h
    rfl

/-- Doubles below infinity that are not negative are those with the least patterns of bits. -/
theorem signed_ofBits {bits : ℕ} (h : bits < 2047 * twoTo 52) :
    Signed .positive (Float.ofBits bits.toUInt64).toModel.unpack := by
  have short : bits < 2047 * 2 ^ 52 := h
  have bound : bits < 2 ^ 64 := by omega
  let word : BitVec 64 := bits.toUInt64.toBitVec
  have toNat : word.toNat = bits := Nat.mod_eq_of_lt bound
  have sign : Sign.ofBitVec (@unpackSign .binary64 word) = .positive := by
    have field : bits >>> 63 % 2 = 0 := by
      rw [Nat.shiftRight_eq_div_pow]
      omega
    exact if_pos (BitVec.eq_of_toNat_eq (by simpa [unpackSign, BitVec.extractLsb, toNat] using field))
  have exponent : @unpackExponent .binary64 word ≠ -1#_ := by
    intro high
    have field : bits >>> 52 % 2048 = 2047 := by
      simpa [unpackExponent, BitVec.extractLsb, toNat] using congrArg BitVec.toNat high
    rw [Nat.shiftRight_eq_div_pow] at field
    omega
  exact sign ▸ (signed_unpack word exponent).packed

theorem signed_nearestAbs? {n d : ℕ} (h : Binary.nearestAbs? n d = some x) : Signed .positive x.toModel.unpack := by
  unfold Binary.nearestAbs? at h
  split at h
  · cases h
    rfl
  obtain ⟨low, hx⟩ := Option.ite_none_right_eq_some.1 h
  cases hx
  exact signed_ofBits low

/-- The double nearest to what is not above zero is not above zero. -/
theorem le_zero_of_nearest? {n : Int} {d : ℕ} (h : Binary.nearest? n d = some x) (hn : n ≤ 0) : x ≤ 0 := by
  unfold Binary.nearest? at h
  split at h
  · obtain ⟨y, hy, rfl⟩ := Option.map_eq_some_iff.1 h
    exact le_zero_of_signed (signed_nearestAbs? hy).neg.packed
  · obtain rfl : n = 0 := by omega
    cases h
    exact by decide +kernel

end Number

/-- Only a length above zero is read as a double above zero. -/
theorem pos_of_pixels {n : Int} {x : Float} (h : pixels n = .ok x) (positive : ¬x ≤ 0) : 0 < n := by
  unfold pixels at h
  split at h
  · next y hy =>
    cases h
    exact Int.not_le.1 fun hn => positive (Number.le_zero_of_nearest? hy hn)
  · cases h

end FlowDeck
