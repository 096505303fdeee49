import Mathlib.Algebra.Group.Nat.Defs
import DistLock.Config.Value

/-!
# Whole numbers as floating-point numbers

From half the range of 64 bits on, a floating-point number holds only every
2048th whole number. One that becomes a floating-point number and a whole
number again is the nearest of these, as far as it is within the range
(`nearest`, `toUInt64_ofNat`). So it is lost unless it is one of them, or
the largest number of all, to which what is too large is cut down
(`nearest_eq_iff`).
-/

namespace DistLock.Binary64

/-- What becomes of a whole number from half the range of 64 bits on. -/
def nearest (n : Nat) : Nat := min (2048 * roundHalfEven n 2048) (unsignedLimit - 1)

theorem nearest_lt (n : Nat) : nearest n < unsignedLimit := by
  unfold nearest unsignedLimit
  omega

/-- A number becomes smaller by half a step at most. -/
theorem le_roundHalfEven (num : Nat) {den : Nat} (hden : 0 < den) :
    num ≤ den * roundHalfEven num den + den / 2 := by
  have hnum := Nat.div_add_mod num den
  have hmod := Nat.mod_lt num hden
  unfold roundHalfEven
  dsimp only
  split
  · rw [Nat.mul_add, Nat.mul_one]
    omega
  · omega

theorem le_nearest {n : Nat} (hn : n < unsignedLimit) : n ≤ nearest n + 1024 := by
  have hround := le_roundHalfEven n (show 0 < 2048 by decide)
  unfold nearest
  omega

/-- Every 2048th number is kept, and the largest of all. -/
theorem nearest_eq_iff {n : Nat} (hn : n < unsignedLimit) :
    nearest n = n ↔ 2048 ∣ n ∨ n = unsignedLimit - 1 := by
  constructor
  · intro h
    unfold nearest at h
    rcases Nat.le_total (2048 * roundHalfEven n 2048) (unsignedLimit - 1) with hle | hle
    · rw [Nat.min_eq_left hle] at h
      exact .inl ⟨_, h.symm⟩
    · rw [Nat.min_eq_right hle] at h
      exact .inr h.symm
  · rintro (⟨q, rfl⟩ | rfl)
    · have hround : roundHalfEven (2048 * q) 2048 = q := by
        simp [roundHalfEven]
      rw [nearest, hround]
      exact Nat.min_eq_left (Nat.le_sub_one_of_lt hn)
    · rfl

/-! ## The exponent -/

section

variable {n : Nat}

theorem exponentOf_large (hlow : 2 ^ 63 ≤ n) (hhigh : n < 2 ^ 64) : exponentOf n 1 = 11 := by
  have hlog : n.log2 = 63 := (Nat.log2_eq_iff (by omega)).2 ⟨hlow, hhigh⟩
  have hone : Nat.log2 1 = 0 := rfl
  have hstart : max ((n.log2 : Int) - (Nat.log2 1 : Int) - 53) minExponent = 10 := by
    rw [hlog, hone]
    rfl
  have hquotient : 2 ^ 53 ≤ n * 2 ^ 0 / (1 * 2 ^ 10) := by omega
  unfold exponentOf
  rw [hstart]
  exact if_pos hquotient

/-- The mantissa of a large number, which may be too large by one bit
after the rounding. -/
theorem ofNat_large (hlow : 2 ^ 63 ≤ n) (hhigh : n < 2 ^ 64) :
    ofNat n = if roundHalfEven n 2048 = 2 ^ 53 then .finite false (2 ^ 52) 12
      else .finite false (roundHalfEven n 2048) 11 := by
  have hscale : scaleDown n 1 11 = (n, 2048) := by simp [scaleDown]
  have hround := le_roundHalfEven n (show 0 < 2048 by decide)
  have hpos : roundHalfEven n 2048 ≠ 0 := by
    intro h
    rw [h] at hround
    omega
  unfold ofNat ofRatio
  rw [if_neg (by omega), exponentOf_large hlow hhigh]
  dsimp only
  rw [hscale]
  by_cases hm : roundHalfEven n 2048 = Nat.pow 2 53
  · rw [if_pos (show _ = 2 ^ 53 from hm)]
    simp only [if_pos hm]
    rfl
  · rw [if_neg (show ¬ _ = 2 ^ 53 from hm)]
    simp only [if_neg hm, if_neg hpos]
    rfl

theorem toUInt64_ofNat (hlow : 2 ^ 63 ≤ n) (hhigh : n < 2 ^ 64) :
    (ofNat n).toUInt64 = .ofNat (nearest n) := by
  rw [ofNat_large hlow hhigh]
  split
  · rename_i h
    rw [nearest, h]
    rfl
  · have hratio : ratio (roundHalfEven n 2048) 11 = (2048 * roundHalfEven n 2048, 1) := by
      simp [ratio, Nat.mul_comm]
    have hround : roundHalfUp (2048 * roundHalfEven n 2048) 1 = 2048 * roundHalfEven n 2048 := by
      unfold roundHalfUp
      omega
    simp only [toUInt64, hratio, hround]
    rfl

end

end DistLock.Binary64
