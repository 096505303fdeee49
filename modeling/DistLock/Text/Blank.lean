/-!
# Blank text

White space as the Unicode property White_Space has it, which is wider than
`Char.isWhitespace` (vertical tab, form feed, next line, no-break space and
the typographic spaces belong to it).
-/

namespace DistLock.Text

/-- `c` is white space. -/
def isBlank (c : Char) : Bool :=
  let n := c.toNat
  (0x09 ≤ n && n ≤ 0x0D) || n == 0x20 || n == 0x85 || n == 0xA0 || n == 0x1680
    || (0x2000 ≤ n && n ≤ 0x200A) || n == 0x2028 || n == 0x2029 || n == 0x202F || n == 0x205F
    || n == 0x3000

/-- The text is empty or consists of white space. -/
def isBlankText (s : String) : Bool := s.toList.all isBlank

theorem toNat_of_isBlank {c : Char} (h : isBlank c = true) :
    c.toNat ≤ 0x20 ∨ 0x85 ≤ c.toNat := by
  simp only [isBlank, Bool.or_eq_true, Bool.and_eq_true, decide_eq_true_eq, beq_iff_eq] at h
  omega

end DistLock.Text
