import DistLock.Wire.Fault

/-!
# Variable-length numbers

A natural number below 2^64 in groups of seven bits, lowest first, each but
the last marked by its top bit. `readVarint` accepts every spelling of at
most ten bytes whose value fits 64 bits, also longer ones than
`writeVarint` produces.
-/

namespace DistLock.Wire

/-- The shortest spelling of `n`. -/
def writeVarint (n : Nat) : Bytes :=
  if n < 128 then [UInt8.ofNat n]
  else UInt8.ofNat (n % 128 + 128) :: writeVarint (n / 128)

/-- The number of groups of seven bits that `n` needs. -/
def varintSize (n : Nat) : Nat := n.log2 / 7 + 1

/-- Reads a number of at most `left` bytes. The tenth byte of a number holds
its 64th bit only. -/
def readVarintWithin : (left : Nat) → Bytes → Except Fault (Nat × Bytes)
  | 0, _ => .error .invalidVarint
  | _ + 1, [] => .error .invalidVarint
  | left + 1, b :: rest =>
    if b < 128 then
      if left = 0 ∧ 1 < b then .error .invalidVarint else .ok (b.toNat, rest)
    else
      match readVarintWithin left rest with
      | .error e => .error e
      | .ok (n, rest) => .ok (b.toNat - 128 + 128 * n, rest)

/-- Reads one number from the front of `bs`. -/
def readVarint (bs : Bytes) : Except Fault (Nat × Bytes) := readVarintWithin 10 bs

theorem readVarintWithin_length {left : Nat} {bs rest : Bytes} {n : Nat}
    (h : readVarintWithin left bs = .ok (n, rest)) : rest.length < bs.length := by
  induction left generalizing bs n rest with
  | zero => cases h
  | succ left ih =>
    cases bs with
    | nil => cases h
    | cons b bs =>
      simp only [readVarintWithin] at h
      split at h
      · split at h
        · cases h
        · cases h; simp
      · split at h
        · cases h
        · rename_i heq
          cases h
          exact Nat.lt_succ_of_lt (ih heq)

/-- Reading a number uses up at least one byte. -/
theorem readVarint_length {bs rest : Bytes} {n : Nat} (h : readVarint bs = .ok (n, rest)) :
    rest.length < bs.length :=
  readVarintWithin_length h

end DistLock.Wire
