import Mathlib.Algebra.Group.Nat.Defs
import DistLock.Wire.Varint

/-!
# Numbers on the wire

What `writeVarint` produces is as long as `varintSize` says
(`length_writeVarint`), and `readVarint` takes exactly that off the front of
the input, whatever follows (`readVarint_writeVarint`). The tenth byte of a
number has room for one bit only, so the induction is on the groups that are
left and bounds the number by twice a power of 128.
-/

namespace DistLock.Wire

theorem writeVarint_of_lt {n : Nat} (h : n < 128) : writeVarint n = [UInt8.ofNat n] := by
  rw [writeVarint, if_pos h]

theorem writeVarint_of_ge {n : Nat} (h : 128 ≤ n) :
    writeVarint n = UInt8.ofNat (n % 128 + 128) :: writeVarint (n / 128) := by
  rw [writeVarint, if_neg (by omega)]

theorem toNat_ofNat_byte {n : Nat} (h : n < 256) : (UInt8.ofNat n).toNat = n :=
  UInt8.toNat_ofNat_of_lt' h

/-- A number of `left` groups is read back; the last of ten groups has
room for one bit. -/
theorem readVarintWithin_writeVarint {left n : Nat} (rest : Bytes) (h : n < 2 * 128 ^ left) :
    readVarintWithin (left + 1) (writeVarint n ++ rest) = .ok (n, rest) := by
  induction left generalizing n with
  | zero =>
      have hn : n < 2 := by simpa using h
      rw [writeVarint_of_lt (by omega), List.singleton_append, readVarintWithin]
      have hbyte := toNat_ofNat_byte (n := n) (by omega)
      rw [if_pos (UInt8.lt_iff_toNat_lt.2 (by rw [hbyte]; show n < 128; omega)), if_neg ?_, hbyte]
      rintro ⟨-, hlarge⟩
      have := UInt8.lt_iff_toNat_lt.1 hlarge
      rw [hbyte] at this
      exact absurd this (by show ¬ 1 < n; omega)
  | succ left ih =>
      by_cases hn : n < 128
      · rw [writeVarint_of_lt hn, List.singleton_append, readVarintWithin]
        have hbyte := toNat_ofNat_byte (n := n) (by omega)
        rw [if_pos (UInt8.lt_iff_toNat_lt.2 (by rw [hbyte]; exact hn)), if_neg (by simp), hbyte]
      · rw [writeVarint_of_ge (by omega), List.cons_append, readVarintWithin]
        have hbyte := toNat_ofNat_byte (n := n % 128 + 128) (by omega)
        have hmore : ¬ UInt8.ofNat (n % 128 + 128) < 128 := by
          rw [UInt8.lt_iff_toNat_lt, hbyte]
          show ¬ n % 128 + 128 < 128
          omega
        have hquotient : n / 128 < 2 * 128 ^ left := by
          rw [Nat.pow_succ] at h
          omega
        rw [if_neg hmore, ih hquotient, hbyte]
        show Except.ok (n % 128 + 128 - 128 + 128 * (n / 128), rest) = .ok (n, rest)
        rw [show n % 128 + 128 - 128 + 128 * (n / 128) = n by omega]

theorem readVarint_writeVarint {n : Nat} (rest : Bytes) (h : n < 2 ^ 64) :
    readVarint (writeVarint n ++ rest) = .ok (n, rest) := by
  apply readVarintWithin_writeVarint
  rw [show 2 * 128 ^ 9 = 2 ^ 64 by decide]
  exact h

/-- A group of seven bits less. -/
theorem log2_of_ge {n : Nat} (h : 128 ≤ n) : n.log2 = (n / 128).log2 + 7 := by
  have hlow : 2 ^ (n / 128).log2 ≤ n / 128 := (Nat.le_log2 (by omega)).1 (Nat.le_refl _)
  have hhigh : n / 128 < 2 ^ ((n / 128).log2 + 1) :=
    (Nat.log2_lt (by omega)).1 (Nat.lt_succ_self _)
  rw [Nat.pow_succ] at hhigh
  have hgroup : 2 ^ ((n / 128).log2 + 7) = 2 ^ (n / 128).log2 * 128 := Nat.pow_add 2 _ 7
  apply (Nat.log2_eq_iff (by omega)).2
  rw [Nat.pow_succ 2 ((n / 128).log2 + 7), hgroup]
  omega

/-- Groups of seven bits: so many suffice for a number of so many bits. -/
theorem varintSize_le {n groups : Nat} (hgroups : 0 < groups) (h : n < 2 ^ (7 * groups)) :
    varintSize n ≤ groups := by
  unfold varintSize
  by_cases hzero : n = 0
  · rw [hzero, Nat.log2_zero]
    omega
  · have hlog : n.log2 < 7 * groups := (Nat.log2_lt hzero).2 h
    omega

/-- The size is the length of the shortest spelling. -/
theorem length_writeVarint (n : Nat) : (writeVarint n).length = varintSize n := by
  induction n using writeVarint.induct with
  | case1 n h =>
      have hsize : varintSize n ≤ 1 := varintSize_le Nat.one_pos h
      rw [writeVarint_of_lt h, List.length_singleton]
      unfold varintSize at hsize ⊢
      omega
  | case2 n h ih =>
      rw [writeVarint_of_ge (by omega), List.length_cons, ih]
      have hlog : n.log2 = (n / 128).log2 + 7 := log2_of_ge (by omega)
      unfold varintSize
      omega

end DistLock.Wire
