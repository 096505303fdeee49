import Mathlib.Data.List.DropRight
import DistLock.Config.Json
import DistLock.Proofs.Config.Settings
import DistLock.Proofs.Decimal.Spelling

/-!
# How settings are written in JSON

The reader of objects, seen from the texts that it reads. A whole number
below `2 ^ 64` and a text of plain characters are values (`isValue_number`,
`isValue_text`), a key in quotes, a colon and a value are a member with any
blanks between them (`isMember_of_spells`), and members with commas between
them are an object (`read?_of_isObject`). So the value with which the last
member for a key is written is that of the key (`read?_of_isObjectWith`).
-/

namespace DistLock.Json

/-! ## Blanks -/

theorem skipBlank_append {blanks : List Char} (h : blanks.all isBlank = true) (rest : List Char) :
    skipBlank (blanks ++ rest) = skipBlank rest := by
  rw [List.all_eq_true] at h
  unfold skipBlank
  rw [List.dropWhile_append_of_pos h]

theorem skipBlank_cons {c : Char} (h : isBlank c = false) (rest : List Char) :
    skipBlank (c :: rest) = c :: rest := by
  simp [skipBlank, h]

theorem skipBlank_of_all {blanks : List Char} (h : blanks.all isBlank = true) :
    skipBlank blanks = [] := by
  have := skipBlank_append h []
  simpa [skipBlank] using this

/-! ## Strings -/

/-- A character that stands for itself in a string. -/
def IsPlainChar (c : Char) : Prop := c ≠ '"' ∧ c ≠ '\\' ∧ 0x20 ≤ c.toNat

instance (c : Char) : Decidable (IsPlainChar c) := inferInstanceAs (Decidable (_ ∧ _))

theorem isPlainChar_of_isDigit {c : Char} (h : c.isDigit = true) : IsPlainChar c := by
  obtain ⟨d, rfl⟩ := Decimal.exists_digitChar h
  have hdigits : ∀ d : Fin 10, IsPlainChar (Nat.digitChar d) := by decide
  exact hdigits d

theorem readStringTail?_of_plain {cs : List Char} (h : ∀ c ∈ cs, IsPlainChar c)
    {rounds : Nat} (hrounds : cs.length < rounds) (done rest : List Char) :
    readStringTail? rounds done (cs ++ '"' :: rest) =
      some (String.ofList (done.reverse ++ cs), rest) := by
  induction cs generalizing rounds done with
  | nil =>
      cases rounds with
      | zero => simp at hrounds
      | succ rounds => simp [readStringTail?]
  | cons c cs ih =>
      cases rounds with
      | zero => simp at hrounds
      | succ rounds =>
          obtain ⟨hquote, hescape, hcontrol⟩ := h c List.mem_cons_self
          have hrest := ih (fun c hc => h c (List.mem_cons_of_mem _ hc))
            (Nat.lt_of_succ_lt_succ hrounds) (c :: done)
          rw [List.cons_append, readStringTail?, if_neg hquote, if_neg hescape,
            if_neg (Nat.not_lt_of_le hcontrol), hrest]
          simp

/-- Plain characters up to a quote are a string. -/
theorem readString?_of_plain {cs : List Char} (h : ∀ c ∈ cs, IsPlainChar c) (rest : List Char) :
    readString? (cs ++ '"' :: rest) = some (String.ofList cs, rest) := by
  unfold readString?
  rw [readStringTail?_of_plain h (by rw [List.length_append]; omega)]
  simp

/-! ## Whole numbers -/

theorem le_ofDigitChars (ds : List Char) (value : Nat) :
    value ≤ Nat.ofDigitChars 10 ds value := by
  rw [Nat.ofDigitChars_eq_ofDigitChars_zero]
  have hpower : 1 ≤ 10 ^ ds.length := Nat.one_le_pow _ _ (by decide)
  exact Nat.le_add_right_of_le (Nat.le_mul_of_pos_left value hpower)

/-- Digits are appended as long as their number fits 64 bits. -/
theorem appendDigits_eq {ds : List Char} {value : Nat}
    (h : Nat.ofDigitChars 10 ds value < unsignedLimit) :
    appendDigits value ds = (Nat.ofDigitChars 10 ds value, 0) := by
  induction ds generalizing value with
  | nil => rfl
  | cons c ds ih =>
      have hzero : '0'.toNat = 48 := rfl
      rw [Nat.ofDigitChars_cons, hzero] at h ⊢
      have hfirst := Nat.lt_of_le_of_lt (le_ofDigitChars ds _) h
      simp only [appendDigits, if_neg (Nat.not_le_of_lt hfirst)]
      exact ih h

/-- A character that can follow a value in an object. -/
def EndsValue (c : Char) : Prop := c = ',' ∨ c = '}' ∨ isBlank c = true

theorem EndsValue.cases {c : Char} (h : EndsValue c) :
    c = ',' ∨ c = '}' ∨ c = ' ' ∨ c = '\n' ∨ c = '\t' ∨ c = '\r' := by
  simpa [EndsValue, isBlank, or_assoc] using h

/-- A number below `2 ^ 64` is read as it is written. -/
theorem readUnsigned?_toDigits {n : Nat} (hn : n < unsignedLimit) {c : Char} (hc : EndsValue c)
    (rest : List Char) : readUnsigned? false (Nat.toDigits 10 n ++ c :: rest) =
      some (wholeNumber false n, c :: rest) := by
  have hspan : Decimal.spanDigits (Nat.toDigits 10 n ++ c :: rest) =
      (Nat.toDigits 10 n, c :: rest) := by
    refine Decimal.spanDigits_toDigits n _ ?_
    rintro c' ⟨⟩
    rcases hc.cases with rfl | rfl | rfl | rfl | rfl | rfl <;> rfl
  have hplain : ((Nat.toDigits 10 n).isEmpty ||
      ((Nat.toDigits 10 n).head? == some '0' && 1 < (Nat.toDigits 10 n).length)) = false := by
    rcases Decimal.isPlain_toDigits n with hzero | ⟨hne, -, hhead⟩
    · rw [hzero]
      rfl
    · rw [List.isEmpty_eq_false_iff.2 hne, beq_eq_false_iff_ne.2 hhead]
      rfl
  have hvalue : Nat.ofDigitChars 10 (Nat.toDigits 10 n) 0 = n :=
    Nat.ofDigitChars_toDigits (by decide) (by decide)
  have happend : appendDigits 0 (Nat.toDigits 10 n) = (n, 0) := by
    rw [appendDigits_eq (by rwa [hvalue]), hvalue]
  unfold readUnsigned?
  rw [hspan]
  dsimp only
  rw [hplain, happend]
  rcases hc.cases with rfl | rfl | rfl | rfl | rfl | rfl <;> rfl

/-! ## Values -/

/-- The characters are read as the value, whatever follows it in an object. -/
structure IsValue (text : List Char) (v : SettingValue) : Prop where
  front : ∃ c cs, text = c :: cs ∧ isBlank c = false
  read : ∀ levels c rest, EndsValue c →
    readValue? levels (text ++ c :: rest) = some (v, c :: rest)

/-- A digit begins a number and nothing else. -/
theorem readValue?_of_isDigit {d : Char} (hd : d.isDigit = true) (levels : Nat) (cs : List Char) :
    readValue? levels (d :: cs) = readUnsigned? false (d :: cs) := by
  have hne (c : Char) (cs' : List Char) (hc : c.isDigit = false) : d :: cs ≠ c :: cs' := by
    rintro h
    rw [(List.cons.inj h).1, hc] at hd
    cases hd
  have hscalar : readScalar? (d :: cs) = readUnsigned? false (d :: cs) := by
    unfold readScalar? readNumber?
    split
    case h_5 =>
        split
        · exact absurd ‹_› (hne _ _ rfl)
        · rfl
    all_goals exact absurd ‹_› (hne _ _ rfl)
  cases levels with
  | zero => exact hscalar
  | succ levels =>
      unfold readValue?
      split
      · exact absurd ‹_› (hne _ _ rfl)
      · exact absurd ‹_› (hne _ _ rfl)
      · exact hscalar

/-- A number below `2 ^ 64` is a value. -/
theorem isValue_number {n : Nat} (hn : n < unsignedLimit) :
    IsValue (Nat.toDigits 10 n) (wholeNumber false n) := by
  cases hdigits : Nat.toDigits 10 n with
  | nil => exact absurd hdigits Nat.toDigits_ne_nil
  | cons d ds =>
      have hd : d.isDigit = true := Decimal.isDigit_of_mem (n := n) (by simp [hdigits])
      refine ⟨⟨d, ds, rfl, ?_⟩, fun levels c rest hc => ?_⟩
      · rw [← Bool.not_eq_true]
        intro hblank
        have hends : EndsValue d := .inr (.inr hblank)
        rcases hends.cases with rfl | rfl | rfl | rfl | rfl | rfl <;> cases hd
      · have hread := readUnsigned?_toDigits hn hc rest
        rw [hdigits, List.cons_append] at hread
        rw [List.cons_append, readValue?_of_isDigit hd levels, hread]

/-- Plain characters in quotes are a value. -/
theorem isValue_text {cs : List Char} (h : ∀ c ∈ cs, IsPlainChar c) :
    IsValue ('"' :: (cs ++ ['"'])) (.text (String.ofList cs)) := by
  refine ⟨⟨'"', _, rfl, rfl⟩, fun levels c rest _ => ?_⟩
  have hread := readString?_of_plain h (c :: rest)
  have htext : '"' :: (cs ++ ['"']) ++ c :: rest = '"' :: (cs ++ '"' :: c :: rest) := by simp
  have hscalar : readScalar? ('"' :: (cs ++ '"' :: c :: rest)) =
      some (.text (String.ofList cs), c :: rest) := by
    simp only [readScalar?, hread, Option.map_some]
  rw [htext, ← hscalar]
  cases levels <;> rfl

/-! ## Members -/

/-- The characters are read as the member of an object, up to
what follows it. -/
def IsMember (text : List Char) (m : String × SettingValue) : Prop :=
  ∀ c rest, c = ',' ∨ c = '}' →
    ∃ tail, readMember? (readValue? (maxLevels - 1)) (text ++ c :: rest) = some (m, tail) ∧
      skipBlank tail = c :: rest

/-- A member is written as its key in quotes, a colon and the value, with
blanks between them. -/
inductive Spells (key : String) (value : List Char) : List Char → Prop
  | mk {a b c d : List Char} : a.all isBlank = true → b.all isBlank = true →
      c.all isBlank = true → d.all isBlank = true →
      Spells key value (a ++ '"' :: (key.toList ++ '"' :: (b ++ ':' :: (c ++ (value ++ d)))))

theorem isMember_of_spells {key : String} {value text : List Char} {v : SettingValue}
    (hkey : ∀ c ∈ key.toList, IsPlainChar c) (hv : IsValue value v) (h : Spells key value text) :
    IsMember text (key, v) := by
  obtain ⟨ha, hb, hc, hd⟩ := h
  rename_i a b c d
  intro e rest he
  obtain ⟨v₀, vs, hvalue, hblank⟩ := hv.front
  have he' : isBlank e = false := by rcases he with rfl | rfl <;> rfl
  -- the value is followed by a blank, or by what follows the member
  have hread : readValue? (maxLevels - 1) (value ++ (d ++ e :: rest)) =
      some (v, d ++ e :: rest) := by
    cases d with
    | nil => exact hv.read _ e rest (he.imp_right .inl)
    | cons d₀ ds =>
        rw [List.all_cons, Bool.and_eq_true] at hd
        exact hv.read _ d₀ (ds ++ e :: rest) (.inr (.inr hd.1))
  refine ⟨d ++ e :: rest, ?_, ?_⟩
  · have hopen : skipBlank (a ++ '"' :: (key.toList ++ '"' :: (b ++ ':' :: (c ++ (value ++ d)))) ++
        e :: rest) =
        '"' :: (key.toList ++ '"' :: (b ++ ':' :: (c ++ (value ++ (d ++ e :: rest))))) := by
      rw [List.append_assoc, skipBlank_append ha, List.cons_append, skipBlank_cons rfl]
      simp only [List.append_assoc, List.cons_append]
    have hname := readString?_of_plain hkey (b ++ ':' :: (c ++ (value ++ (d ++ e :: rest))))
    have hcolon : skipBlank (b ++ ':' :: (c ++ (value ++ (d ++ e :: rest)))) =
        ':' :: (c ++ (value ++ (d ++ e :: rest))) := by
      rw [skipBlank_append hb, skipBlank_cons rfl]
    have hfront : skipBlank (c ++ (value ++ (d ++ e :: rest))) = value ++ (d ++ e :: rest) := by
      rw [skipBlank_append hc, hvalue, List.cons_append, skipBlank_cons hblank]
    simp only [readMember?, hopen, hname, hcolon, hfront, hread, Option.map_some,
      String.ofList_toList]
  · rw [skipBlank_append hd, skipBlank_cons he']

/-! ## Objects -/

/-- The characters are the members of an object, with commas between them. -/
inductive IsMembers : List Char → List (String × SettingValue) → Prop
  | last {text : List Char} {m : String × SettingValue} : IsMember text m → IsMembers text [m]
  | more {text rest : List Char} {m : String × SettingValue}
      {ms : List (String × SettingValue)} :
      IsMember text m → IsMembers rest ms → IsMembers (text ++ ',' :: rest) (m :: ms)

/-- Members up to a brace are read one after the other. -/
theorem readMembers?_of_isMembers {body : List Char} {ms : List (String × SettingValue)}
    (h : IsMembers body ms) (rest : List Char) {rounds : Nat} (hrounds : ms.length ≤ rounds) :
    readMembers? (readValue? (maxLevels - 1)) rounds (body ++ '}' :: rest) = some (ms, rest) := by
  induction h generalizing rounds with
  | @last text m hm =>
      cases rounds with
      | zero => simp at hrounds
      | succ rounds =>
          obtain ⟨tail, hread, hskip⟩ := hm '}' rest (.inr rfl)
          simp only [readMembers?, hread, hskip]
  | @more text body m ms hm _ ih =>
      cases rounds with
      | zero => simp at hrounds
      | succ rounds =>
          obtain ⟨tail, hread, hskip⟩ := hm ',' (body ++ '}' :: rest) (.inl rfl)
          have hmore := ih (Nat.le_of_succ_le_succ hrounds)
          have htext : text ++ ',' :: body ++ '}' :: rest =
              text ++ ',' :: (body ++ '}' :: rest) := by simp
          simp only [htext, readMembers?, hread, hskip, hmore, Option.map_some]

/-- There are no more members than commas and one. -/
theorem IsMembers.length_le {body : List Char} {ms : List (String × SettingValue)}
    (h : IsMembers body ms) : ms.length ≤ body.count ',' + 1 := by
  induction h with
  | last _ => simp
  | more _ _ ih =>
      rw [List.count_append, List.count_cons_self, List.length_cons]
      omega

theorem count_skipBlank {c : Char} (hc : isBlank c = false) (cs : List Char) :
    (skipBlank cs).count c = cs.count c := by
  have hblanks : (cs.takeWhile isBlank).count c = 0 := by
    rw [List.count_eq_zero]
    intro hmem
    have hblank := List.all_eq_true.1 List.all_takeWhile c hmem
    simp [hc] at hblank
  have hsplit := congrArg (List.count c) (List.takeWhile_append_dropWhile (p := isBlank) (l := cs))
  rw [List.count_append, hblanks, Nat.zero_add] at hsplit
  exact hsplit

/-- Blanks in front of the first member do not matter. -/
theorem readMembers?_skipBlank (value : ValueReader) (rounds : Nat) (cs : List Char) :
    readMembers? value rounds (skipBlank cs) = readMembers? value rounds cs := by
  have htwice : skipBlank (skipBlank cs) = skipBlank cs := List.dropWhile_idempotent ..
  cases rounds with
  | zero => rfl
  | succ rounds => simp only [readMembers?, readMember?, htwice]

/-- The text is an object with the members, and nothing else but blanks. -/
def IsObject (s : String) (ms : List (String × SettingValue)) : Prop :=
  ∃ front body back, front.all isBlank = true ∧ back.all isBlank = true ∧ IsMembers body ms ∧
    s.toList = front ++ '{' :: (body ++ '}' :: back)

theorem read?_of_isObject {s : String} {ms : List (String × SettingValue)} (h : IsObject s ms) :
    read? s = some ms := by
  obtain ⟨front, body, back, hfront, hback, hbody, hs⟩ := h
  have hrounds : ms.length ≤ (skipBlank (body ++ '}' :: back)).length + 1 := by
    have hcommas := List.count_le_length (a := ',') (l := skipBlank (body ++ '}' :: back))
    rw [count_skipBlank rfl, List.count_append] at hcommas
    have hlength := hbody.length_le
    omega
  have hmembers := readMembers?_of_isMembers hbody back hrounds
  have hobject : readObject? (readValue? (maxLevels - 1)) (body ++ '}' :: back) =
      some (ms, back) := by
    unfold readObject?
    split
    · -- there is a member before the brace
      rename_i hclosed
      rw [← readMembers?_skipBlank, hclosed] at hmembers
      cases hmembers
    · rw [readMembers?_skipBlank, hmembers]
  unfold read?
  rw [hs, skipBlank_append hfront, skipBlank_cons rfl]
  simp only [hobject, skipBlank_of_all hback, List.isEmpty_nil, if_true]

/-! ## The last member for a key -/

/-- Among the members, the last one for the key is written with the value. -/
inductive SetsLast (key : String) (value : List Char) : List Char → Prop
  | last {text : List Char} : Spells key value text → SetsLast key value text
  | followed {text rest : List Char} {ms : List (String × SettingValue)} :
      Spells key value text → IsMembers rest ms → (∀ m ∈ ms, m.1 ≠ key) →
      SetsLast key value (text ++ ',' :: rest)
  | preceded {text rest : List Char} {m : String × SettingValue} :
      IsMember text m → SetsLast key value rest → SetsLast key value (text ++ ',' :: rest)

/-- So it is that value that counts. -/
theorem exists_isMembers_of_setsLast {key : String} {value body : List Char} {v : SettingValue}
    (hkey : ∀ c ∈ key.toList, IsPlainChar c) (hv : IsValue value v)
    (h : SetsLast key value body) : ∃ ms, IsMembers body ms ∧ lastValue? ms key = some v := by
  induction h with
  | last hspells => exact ⟨_, .last (isMember_of_spells hkey hv hspells), by simp [lastValue?]⟩
  | @followed text rest ms hspells hms hothers =>
      refine ⟨_, .more (isMember_of_spells hkey hv hspells) hms, ?_⟩
      have hnone : ms.reverse.lookup key = none := by
        rw [List.lookup_eq_none_iff]
        intro m hm
        exact bne_iff_ne.2 (Ne.symm (hothers m (List.mem_reverse.1 hm)))
      simp [lastValue?, List.lookup_append, hnone]
  | preceded hm _ ih =>
      obtain ⟨ms, hms, hlast⟩ := ih
      refine ⟨_, .more hm hms, ?_⟩
      rw [lastValue?] at hlast ⊢
      rw [List.reverse_cons, List.lookup_append, hlast]
      rfl

/-- The text is an object in which the last member for the key is written
with the value. -/
def IsObjectWith (key : String) (value : List Char) (s : String) : Prop :=
  ∃ front body back, front.all isBlank = true ∧ back.all isBlank = true ∧
    SetsLast key value body ∧ s.toList = front ++ '{' :: (body ++ '}' :: back)

theorem read?_of_isObjectWith {key s : String} {value : List Char} {v : SettingValue}
    (hkey : ∀ c ∈ key.toList, IsPlainChar c) (hv : IsValue value v)
    (h : IsObjectWith key value s) : ∃ ms, read? s = some ms ∧ lastValue? ms key = some v := by
  obtain ⟨front, body, back, hfront, hback, hbody, hs⟩ := h
  obtain ⟨ms, hms, hlast⟩ := exists_isMembers_of_setsLast hkey hv hbody
  exact ⟨ms, read?_of_isObject ⟨front, body, back, hfront, hback, hms, hs⟩, hlast⟩

end DistLock.Json
