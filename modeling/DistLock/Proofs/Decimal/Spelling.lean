import DistLock.Decimal.Numeral
import DistLock.Decimal.Shortest

/-!
# The spelling of whole numbers

A whole number is written without a plus, without a zero in front of other
digits, and zero without a minus. A text that reads as a number is how that
number is written exactly if it is spelled so (`toString_eq_iff`). However a
number is written, there is a digit in its text. What a number is written as
reads as that number, by whoever reads whole numbers (`readInt?_toString`,
`readNat?_toString`) and, if it is not too long, by who reads any number
(`readBinary64?_toString`).
-/

namespace DistLock.Decimal

/-! ## Digits -/

/-- One digit or more, without a zero in front of others. -/
def IsPlain (cs : List Char) : Prop :=
  cs = ['0'] ∨ (cs ≠ [] ∧ cs.all Char.isDigit = true ∧ cs.head? ≠ some '0')

theorem digitsValue_eq (cs : List Char) : digitsValue cs = Nat.ofDigitChars 10 cs 0 := rfl

/-- A digit stands for a number below ten. -/
theorem toNat_of_isDigit {c : Char} (h : c.isDigit = true) : 48 ≤ c.toNat ∧ c.toNat ≤ 57 := by
  simp only [Char.isDigit, Bool.and_eq_true, decide_eq_true_eq] at h
  exact h

theorem digitChar_eq_ofNat : ∀ d : Fin 10, Nat.digitChar d = Char.ofNat (48 + d) := by decide

theorem toDigits_of_isDigit {c : Char} (h : c.isDigit = true) :
    Nat.toDigits 10 (c.toNat - 48) = [c] := by
  obtain ⟨hlow, hhigh⟩ := toNat_of_isDigit h
  have hdigit : c.toNat - 48 < 10 := by omega
  have hchar := digitChar_eq_ofNat ⟨c.toNat - 48, hdigit⟩
  simp only [Nat.add_sub_cancel' hlow, Char.ofNat_toNat] at hchar
  rw [Nat.toDigits_of_lt_base hdigit, hchar]

theorem isDigit_of_mem {n : Nat} {c : Char} (hc : c ∈ Nat.toDigits 10 n) : c.isDigit = true :=
  Nat.isDigit_of_mem_toDigits (by decide) (by decide) hc

/-- A digit is one of ten characters. -/
theorem exists_digitChar {c : Char} (h : c.isDigit = true) : ∃ d : Fin 10, c = Nat.digitChar d := by
  obtain ⟨hlow, hhigh⟩ := toNat_of_isDigit h
  refine ⟨⟨c.toNat - 48, by omega⟩, ?_⟩
  rw [digitChar_eq_ofNat, Nat.add_sub_cancel' hlow, Char.ofNat_toNat]

theorem exists_toDigits (n : Nat) :
    ∃ (d : Fin 10) (ds : List Char), Nat.toDigits 10 n = Nat.digitChar d :: ds := by
  cases hn : Nat.toDigits 10 n with
  | nil => exact absurd hn Nat.toDigits_ne_nil
  | cons c ds =>
      have hc : c.isDigit = true := isDigit_of_mem (n := n) (by simp [hn])
      obtain ⟨d, rfl⟩ := exists_digitChar hc
      exact ⟨d, ds, rfl⟩

/-- Digits behind a number that is not zero are the digits behind its own. -/
theorem toDigits_ofDigitChars {cs : List Char} (hcs : cs.all Char.isDigit = true) {n : Nat}
    (hn : 0 < n) : Nat.toDigits 10 (Nat.ofDigitChars 10 cs n) = Nat.toDigits 10 n ++ cs := by
  induction cs generalizing n with
  | nil => simp [Nat.ofDigitChars]
  | cons c cs ih =>
      rw [List.all_cons, Bool.and_eq_true] at hcs
      obtain ⟨hlow, hhigh⟩ := toNat_of_isDigit hcs.1
      have hzero : '0'.toNat = 48 := rfl
      have hmore : Nat.toDigits 10 (10 * n + (c.toNat - 48)) = Nat.toDigits 10 n ++ [c] := by
        rw [← Nat.toDigits_append_toDigits (by decide) hn (by omega), toDigits_of_isDigit hcs.1]
      rw [Nat.ofDigitChars_cons, hzero, ih hcs.2 (by omega), hmore, List.append_assoc]
      rfl

/-- No number but zero is written with a zero in front. -/
theorem head?_toDigits {n : Nat} (hn : 0 < n) : (Nat.toDigits 10 n).head? ≠ some '0' := by
  induction n using Nat.strongRecOn with
  | _ n ih =>
      rcases Nat.lt_or_ge n 10 with hsmall | hlarge
      · rw [Nat.toDigits_of_lt_base hsmall]
        have hchar : ∀ d : Fin 10, 0 < d.val → some (Nat.digitChar d) ≠ some '0' := by decide
        exact hchar ⟨n, hsmall⟩ hn
      · rw [Nat.toDigits_of_base_le (by decide) hlarge, List.head?_append]
        have hfront := ih (n / 10) (by omega) (by omega)
        cases hdigits : Nat.toDigits 10 (n / 10) with
        | nil => exact absurd hdigits Nat.toDigits_ne_nil
        | cons c cs =>
            rw [hdigits] at hfront
            exact hfront

theorem isPlain_toDigits (n : Nat) : IsPlain (Nat.toDigits 10 n) := by
  rcases Nat.eq_zero_or_pos n with rfl | hn
  · exact .inl rfl
  · refine .inr ⟨Nat.toDigits_ne_nil, ?_, head?_toDigits hn⟩
    rw [List.all_eq_true]
    exact fun _ => isDigit_of_mem

/-- Digits are those of their value exactly if they are plain. -/
theorem toDigits_digitsValue_iff {cs : List Char} (hcs : cs.all Char.isDigit = true) :
    Nat.toDigits 10 (digitsValue cs) = cs ↔ IsPlain cs := by
  constructor
  · intro h
    rw [← h]
    exact isPlain_toDigits _
  · rintro (rfl | ⟨hne, -, hhead⟩)
    · rfl
    · cases cs with
      | nil => exact absurd rfl hne
      | cons c cs =>
          rw [List.all_cons, Bool.and_eq_true] at hcs
          obtain ⟨hlow, -⟩ := toNat_of_isDigit hcs.1
          have hpos : c.toNat ≠ 48 := fun h => hhead (by
            rw [List.head?_cons, ← Char.ofNat_toNat c, h])
          have hvalue : digitsValue (c :: cs) = Nat.ofDigitChars 10 cs (c.toNat - 48) := by
            rw [digitsValue_eq, Nat.ofDigitChars_cons, Nat.mul_zero, Nat.zero_add]
            rfl
          rw [hvalue, toDigits_ofDigitChars hcs.2 (by omega), toDigits_of_isDigit hcs.1]
          rfl

/-! ## Whole numbers -/

/-- Plain digits, or a minus and plain digits that are not zero. -/
def IsPlainInteger (s : String) : Prop :=
  IsPlain s.toList ∨ ∃ cs, s.toList = '-' :: cs ∧ IsPlain cs ∧ cs ≠ ['0']

theorem toList_toString (n : Nat) : (toString n).toList = Nat.toDigits 10 n := by
  rw [Nat.toString_eq_repr, Nat.toList_repr]

theorem toList_toString_neg (n : Nat) : (toString (-(n : Int))).toList =
    if n = 0 then ['0'] else '-' :: Nat.toDigits 10 n := by
  cases n with
  | zero => rfl
  | succ n =>
      have htext : toString (-((n + 1 : Nat) : Int)) = "-" ++ toString (n + 1) := rfl
      rw [htext, String.toList_append, toList_toString]
      rfl

theorem readDigits?_eq_some {cs : List Char} {n : Nat} :
    readDigits? cs = some n ↔ cs ≠ [] ∧ cs.all Char.isDigit = true ∧ digitsValue cs = n := by
  unfold readDigits?
  cases cs with
  | nil => simp
  | cons c cs => simp

/-- A text has a minus in front, a plus, or neither. -/
theorem splitSign_cases (cs : List Char) :
    (∃ ds, cs = '-' :: ds ∧ splitSign cs = (true, ds)) ∨
    (∃ ds, cs = '+' :: ds ∧ splitSign cs = (false, ds)) ∨
    ((∀ ds, cs ≠ '-' :: ds) ∧ (∀ ds, cs ≠ '+' :: ds) ∧ splitSign cs = (false, cs)) := by
  unfold splitSign
  split
  · exact .inl ⟨_, rfl, rfl⟩
  · exact .inr (.inl ⟨_, rfl, rfl⟩)
  · rename_i hminus hplus
    exact .inr (.inr ⟨hminus, hplus, rfl⟩)

theorem readInt?_eq_some {s : String} {n : Int} (h : readInt? s = some n) :
    (splitSign s.toList).2.all Char.isDigit = true ∧
      n = if (splitSign s.toList).1 then -(digitsValue (splitSign s.toList).2 : Int)
        else digitsValue (splitSign s.toList).2 := by
  unfold readInt? at h
  cases hread : readDigits? (splitSign s.toList).2 with
  | none =>
      simp only [hread] at h
      cases h
  | some m =>
      simp only [hread] at h
      obtain ⟨-, hdigits, rfl⟩ := readDigits?_eq_some.1 hread
      exact ⟨hdigits, (Option.some.inj h).symm⟩

/-- No sign is a digit. -/
theorem not_isPlain_of_sign {c : Char} {cs : List Char} (hc : c.isDigit = false) :
    ¬ IsPlain (c :: cs) := by
  rintro (h | ⟨-, h, -⟩)
  · obtain ⟨rfl, -⟩ := List.cons.inj h
    cases hc
  · rw [List.all_cons, hc] at h
    cases h

/-- Nothing but a digit is in front of a number without a sign. -/
theorem toDigits_ne_sign (n : Nat) {c : Char} (hc : c.isDigit = false) (cs : List Char) :
    Nat.toDigits 10 n ≠ c :: cs := by
  intro h
  have hplain := isPlain_toDigits n
  rw [h] at hplain
  exact not_isPlain_of_sign hc hplain

theorem splitSign_toDigits (n : Nat) :
    splitSign (Nat.toDigits 10 n) = (false, Nat.toDigits 10 n) := by
  rcases splitSign_cases (Nat.toDigits 10 n) with ⟨ds, hds, -⟩ | ⟨ds, hds, -⟩ | ⟨-, -, hsplit⟩
  · exact absurd hds (toDigits_ne_sign n rfl ds)
  · exact absurd hds (toDigits_ne_sign n rfl ds)
  · exact hsplit

theorem readDigits?_toDigits (n : Nat) : readDigits? (Nat.toDigits 10 n) = some n := by
  rw [readDigits?_eq_some, digitsValue_eq, List.all_eq_true]
  exact ⟨Nat.toDigits_ne_nil, fun _ => isDigit_of_mem,
    Nat.ofDigitChars_toDigits (by decide) (by decide)⟩

/-- A whole number reads as it was written. -/
theorem readInt?_toString (n : Int) : readInt? (toString n) = some n := by
  unfold readInt?
  cases n with
  | ofNat m =>
      have htext : (toString (Int.ofNat m)).toList = Nat.toDigits 10 m := toList_toString m
      rw [htext, splitSign_toDigits]
      simp only [readDigits?_toDigits, Bool.false_eq_true, if_false]
      rfl
  | negSucc m =>
      have htext : (toString (Int.negSucc m)).toList = '-' :: Nat.toDigits 10 (m + 1) :=
        toList_toString_neg (m + 1)
      rw [htext]
      simp only [splitSign, readDigits?_toDigits, if_true]
      rfl

theorem readNat?_toString (n : Nat) : readNat? (toString n) = some n := by
  unfold readNat?
  rw [toList_toString]
  split
  · rename_i cs h
    exact absurd h (toDigits_ne_sign n rfl cs)
  · exact readDigits?_toDigits n

theorem toString_int_injective {m n : Int} (h : toString m = toString n) : m = n := by
  have hread := readInt?_toString m
  rw [h, readInt?_toString n] at hread
  exact (Option.some.inj hread).symm

/-- The text of a whole number is made of digits, and of a minus in front. -/
theorem mem_toString_int {n : Int} {c : Char} (hc : c ∈ (toString n).toList) :
    c = '-' ∨ c.isDigit = true := by
  have hdigits (m : Nat) (h : c ∈ Nat.toDigits 10 m) : c.isDigit = true := isDigit_of_mem h
  cases n with
  | ofNat m => exact .inr (hdigits m (toList_toString m ▸ hc))
  | negSucc m =>
      have htext : (toString (Int.negSucc m)).toList = '-' :: Nat.toDigits 10 (m + 1) :=
        toList_toString_neg (m + 1)
      rw [htext, List.mem_cons] at hc
      exact hc.imp_right (hdigits (m + 1))

/-- No number reads like a word. -/
theorem eqIgnoringAsciiCase_toDigits (n : Nat) (word : String) {c : Char}
    (hword : word.toList.head? = some c)
    (hc : ∀ d : Fin 10, (Nat.digitChar d).toLower ≠ c.toLower) :
    Text.eqIgnoringAsciiCase (String.ofList (Nat.toDigits 10 n)) word = false := by
  obtain ⟨d, ds, hn⟩ := exists_toDigits n
  obtain ⟨cs, hcs⟩ := List.head?_eq_some_iff.1 hword
  simp [Text.eqIgnoringAsciiCase, hn, hcs, hc d]

/-- Digits are taken off the front of what does not go on with one. -/
theorem spanDigits_toDigits (n : Nat) (rest : List Char)
    (hrest : ∀ c ∈ rest.head?, c.isDigit = false) :
    spanDigits (Nat.toDigits 10 n ++ rest) = (Nat.toDigits 10 n, rest) := by
  have hdigits : ∀ c ∈ Nat.toDigits 10 n, c.isDigit = true := fun _ => isDigit_of_mem
  unfold spanDigits
  rw [List.takeWhile_append_of_pos hdigits, List.dropWhile_append_of_pos hdigits]
  cases rest with
  | nil => simp
  | cons c cs => simp [hrest c rfl]

/-- A whole number that is not too long reads as the floating-point
number nearest to it. -/
theorem readBinary64?_toString {n : Nat} (hlength : (Nat.toDigits 10 n).length ≤ 400) :
    readBinary64? (toString n) = some (.ofNat n) := by
  unfold readBinary64?
  rw [toList_toString, splitSign_toDigits]
  dsimp only
  have hspan : spanDigits (Nat.toDigits 10 n) = (Nat.toDigits 10 n, []) := by
    simpa using spanDigits_toDigits n [] (by simp)
  have hread : readUnsigned? false (Nat.toDigits 10 n) = some ⟨false, n, 0⟩ := by
    unfold readUnsigned?
    rw [hspan]
    simp [readExponent?, digitsValue_eq, Nat.ofDigitChars_toDigits]
  rw [eqIgnoringAsciiCase_toDigits n "nan" rfl (by decide),
    eqIgnoringAsciiCase_toDigits n "inf" rfl (by decide),
    eqIgnoringAsciiCase_toDigits n "infinity" rfl (by decide), hread]
  have hvalue : Numeral.toBinary64 ⟨false, n, 0⟩ = .ofNat n := by
    unfold Numeral.toBinary64 Binary64.ofNat
    dsimp only
    by_cases hzero : n = 0
    · rw [if_pos hzero, Binary64.ofRatio, if_pos hzero]
    · rw [if_neg hzero, if_neg (by unfold reach; omega), if_neg (by unfold reach; omega)]
      simp
  simp only [Bool.false_eq_true, if_false, Bool.or_false, Option.map_some, hvalue]

/-- Behind a minus, the digits are plain, and not those of zero. -/
theorem toString_neg_eq_iff {cs : List Char} (hdigits : cs.all Char.isDigit = true) :
    (toString (-(digitsValue cs : Int))).toList = '-' :: cs ↔ IsPlain cs ∧ cs ≠ ['0'] := by
  rw [toList_toString_neg]
  constructor
  · intro h
    split at h
    · obtain ⟨hsign, -⟩ := List.cons.inj h
      cases hsign
    · rename_i hvalue
      obtain ⟨-, h⟩ := List.cons.inj h
      refine ⟨(toDigits_digitsValue_iff hdigits).1 h, ?_⟩
      rintro rfl
      exact hvalue rfl
  · rintro ⟨hplain, hzero⟩
    have htext := (toDigits_digitsValue_iff hdigits).2 hplain
    rw [if_neg, htext]
    intro hvalue
    rw [hvalue] at htext
    exact hzero htext.symm

/-- **The spelling of a whole number.** A text that reads as a number is how
the number is written exactly if it has no plus, no zero in front of other
digits, and no minus in front of zero. -/
theorem toString_eq_iff {s : String} {n : Int} (h : readInt? s = some n) :
    toString n = s ↔ IsPlainInteger s := by
  obtain ⟨hdigits, hn⟩ := readInt?_eq_some h
  unfold IsPlainInteger
  rw [← String.toList_inj]
  generalize s.toList = cs at hdigits hn ⊢
  rcases splitSign_cases cs with ⟨ds, rfl, hsplit⟩ | ⟨ds, rfl, hsplit⟩ | ⟨hminus, -, hsplit⟩
  · -- behind a minus
    rw [hsplit] at hdigits hn
    rw [hn, if_pos rfl, toString_neg_eq_iff hdigits]
    constructor
    · intro hds
      exact .inr ⟨ds, rfl, hds⟩
    · rintro (hplain | ⟨ds', hds, hplain⟩)
      · exact absurd hplain (not_isPlain_of_sign rfl)
      · obtain ⟨-, rfl⟩ := List.cons.inj hds
        exact hplain
  · -- behind a plus
    rw [hsplit] at hn
    rw [hn, if_neg Bool.false_ne_true]
    constructor
    · intro htext
      exact absurd ((toList_toString _).symm.trans htext) (toDigits_ne_sign _ rfl ds)
    · rintro (hplain | ⟨ds', hds, -⟩)
      · exact absurd hplain (not_isPlain_of_sign rfl)
      · obtain ⟨hsign, -⟩ := List.cons.inj hds
        cases hsign
  · -- without a sign
    rw [hsplit] at hdigits hn
    have htext : (toString n).toList = Nat.toDigits 10 (digitsValue cs) := by
      rw [hn, if_neg Bool.false_ne_true]
      exact toList_toString _
    rw [htext, toDigits_digitsValue_iff hdigits]
    constructor
    · exact .inl
    · rintro (hplain | ⟨ds', hds, -⟩)
      · exact hplain
      · exact absurd hds (hminus ds')

/-! ## Digits in texts of numbers -/

theorem exists_isDigit_toString (n : Nat) :
    ∃ c ∈ (toString n).toList, c.isDigit = true := by
  rw [toList_toString]
  obtain ⟨c, hc⟩ := List.exists_mem_of_ne_nil _ (Nat.toDigits_ne_nil (n := n) (b := 10))
  exact ⟨c, hc, isDigit_of_mem hc⟩

theorem exists_isDigit_toString_int (n : Int) :
    ∃ c ∈ (toString n).toList, c.isDigit = true := by
  cases n with
  | ofNat m => exact exists_isDigit_toString m
  | negSucc m =>
      have htext : toString (Int.negSucc m) = "-" ++ toString (m + 1) := rfl
      obtain ⟨c, hc, hdigit⟩ := exists_isDigit_toString (m + 1)
      refine ⟨c, ?_, hdigit⟩
      rw [htext, String.toList_append]
      exact List.mem_append_right _ hc

theorem exists_isDigit_positional (n : Nat) (place : Int) :
    ∃ c ∈ (positional n place).toList, c.isDigit = true := by
  cases place with
  | ofNat k =>
      obtain ⟨c, hc, hdigit⟩ := exists_isDigit_toString n
      refine ⟨c, ?_, hdigit⟩
      rw [positional, String.toList_append]
      exact List.mem_append_left _ hc
  | negSucc k =>
      unfold positional
      dsimp only
      generalize hpadded : List.replicate (k + 2 - (Nat.toDigits 10 n).length) '0' ++
        Nat.toDigits 10 n = padded
      have hdigits : ∀ c ∈ padded, c.isDigit = true := by
        intro c hc
        rw [← hpadded, List.mem_append] at hc
        rcases hc with hc | hc
        · rw [List.eq_of_mem_replicate hc]
          rfl
        · exact isDigit_of_mem hc
      have hlength : k + 2 ≤ padded.length := by
        rw [← hpadded, List.length_append, List.length_replicate]
        omega
      -- at least one digit stands before the point
      have hwhole : padded.take (padded.length - (k + 1)) ≠ [] := by
        rw [← List.length_pos_iff, List.length_take]
        omega
      obtain ⟨c, hc⟩ := List.exists_mem_of_ne_nil _ hwhole
      refine ⟨c, ?_, hdigits c (List.mem_of_mem_take hc)⟩
      rw [String.toList_ofList]
      split
      · exact hc
      · exact List.mem_append_left _ hc

end DistLock.Decimal
