import DistLock.Config.Json
import DistLock.Text.Lossy

/-!
# Percent-encoded text

A percent sign with two hexadecimal digits stands for a byte, and
everything else for itself. The bytes are a text, or there is a first place
at which they are none.
-/

namespace DistLock.Text.Percent

/-- The byte for two hexadecimal digits. -/
def byte? (a b : UInt8) : Option UInt8 :=
  match Json.hexDigit? (Char.ofNat a.toNat), Json.hexDigit? (Char.ofNat b.toNat) with
  | some m, some n => some (.ofNat (16 * m + n))
  | _, _ => none

/-- The bytes that are meant. -/
def decode : List UInt8 → List UInt8
  | 0x25 :: a :: b :: rest =>
    match byte? a b with
    | some c => c :: decode rest
    | none => 0x25 :: decode (a :: b :: rest)
  | c :: rest => c :: decode rest
  | [] => []

/-- Where bytes stop being text. -/
structure TextFault where
  /-- How many bytes come before. -/
  offset : Nat
  /-- The length of the faulty piece; `none` if it is cut off by the end. -/
  length : Option Nat
  deriving DecidableEq, Repr

def TextFault.message (f : TextFault) : String :=
  match f.length with
  | some n => s!"invalid utf-8 sequence of {n} bytes from index {f.offset}"
  | none => s!"incomplete utf-8 byte sequence from index {f.offset}"

/-- The first fault in bytes of which `offset` were passed. -/
def fault? : (rounds : Nat) → (offset : Nat) → List UInt8 → Option TextFault
  | 0, _, _ => none
  | _ + 1, _, [] => none
  | rounds + 1, offset, b :: bs =>
    if b < 0x80 then fault? rounds (offset + 1) bs
    else
      match followers? b with
      | none => some ⟨offset, some 1⟩
      | some (n, low, high) =>
        match takeFollowers n low high (leadBits b n) bs with
        | (0, _, rest) => fault? rounds (offset + 1 + n) rest
        | (missing, _, rest) =>
          some ⟨offset, if rest.isEmpty then none else some (1 + n - missing)⟩

/-- The text that bytes are, or what is wrong with them. -/
def textOf (bs : List UInt8) : Except TextFault String :=
  match fault? bs.length 0 bs with
  | some f => .error f
  | none => .ok (decodeLossy bs)

end DistLock.Text.Percent
