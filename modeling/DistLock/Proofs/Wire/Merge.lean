import DistLock.Proofs.Wire.Local

/-!
# Decoding a concatenation

The fields of `bs` can be read first and the ones behind them afterwards,
from the message so far (`readFields_append`): when every field of a table
is local, nothing but that message passes from one field to the next. So
decoding a concatenation is decoding its first part and merging the second
into what came of it (`decode_append`).

A key takes a byte, so the rounds that `readFields` counts never run out
before the bytes do. `readFields_of_gt` says so once; the lemmas below it
count as many rounds as there are bytes.
-/

namespace DistLock.Wire

namespace Schema

variable {α : Type} {s : Schema α} {levels stop : Nat} {m m' : α} {bs rest : Bytes}

/-- A table is local when all its fields are. -/
def IsLocal (s : Schema α) : Prop := ∀ f ∈ s.fields, f.IsLocal

/-! ## One field -/

theorem readField_append (hs : s.IsLocal) (tail : Bytes)
    (h : s.readField levels m bs = .ok (m', rest)) :
    s.readField levels m (bs ++ tail) = .ok (m', rest ++ tail) ∧ rest.length < bs.length := by
  unfold readField at h ⊢
  cases hkey : readKey bs with
  | error e => rw [hkey] at h; cases h
  | ok p =>
      obtain ⟨tag, w, after⟩ := p
      have hafter := readKey_length hkey
      rw [hkey] at h
      rw [readKey_append tail hkey]
      cases hfind : s.fields.find? (·.tag == tag) with
      | some f =>
          simp only [hfind] at h ⊢
          have hf := hs f (List.mem_of_find?_eq_some hfind) levels w m
          have hlocal := hf.mapError (·.inside ⟨s.name, f.name⟩)
          have hlen := hlocal.length_le h
          exact ⟨hlocal.append tail h, by omega⟩
      | none =>
          simp only [hfind] at h ⊢
          cases hskip : skip levels tag w after with
          | error e => rw [hskip] at h; cases h
          | ok next =>
              rw [hskip] at h
              cases h
              have hread := readNothing_eq_ok.2 hskip
              have hlen := (isLocal_skip levels tag w).length_le hread
              rw [readNothing_eq_ok.1 ((isLocal_skip levels tag w).append tail hread)]
              exact ⟨rfl, by omega⟩

theorem readField_length (hs : s.IsLocal) (h : s.readField levels m bs = .ok (m', rest)) :
    rest.length < bs.length := (readField_append hs [] h).2

/-! ## All fields -/

theorem readFields_of_le {rounds : Nat} (h : bs.length ≤ stop) :
    s.readFields levels stop rounds m bs = .ok (m, bs) := by
  cases rounds with
  | zero => rfl
  | succ rounds => rw [readFields, if_pos h]

/-- Any number of rounds from the number of bytes on will do. -/
theorem readFields_rounds (hs : s.IsLocal) {rounds rounds' : Nat} (h : bs.length ≤ rounds)
    (h' : bs.length ≤ rounds') :
    s.readFields levels stop rounds m bs = s.readFields levels stop rounds' m bs := by
  induction rounds generalizing rounds' m bs with
  | zero => rw [readFields_of_le (by omega), readFields_of_le (by omega)]
  | succ rounds ih =>
      by_cases hstop : bs.length ≤ stop
      · rw [readFields_of_le hstop, readFields_of_le hstop]
      · obtain ⟨rounds', rfl⟩ : ∃ r, rounds' = r + 1 := ⟨rounds' - 1, by omega⟩
        rw [readFields, readFields, if_neg hstop, if_neg hstop]
        cases hfield : s.readField levels m bs with
        | error e => rfl
        | ok p =>
            have hlen := readField_length hs hfield
            exact ih (by omega) (by omega)

/-- One field, and then the others with as many rounds as there
are bytes left. -/
theorem readFields_of_gt (hs : s.IsLocal) (h : stop < bs.length) :
    s.readFields levels stop bs.length m bs =
      match s.readField levels m bs with
      | .error e => .error e
      | .ok (m, rest) => s.readFields levels stop rest.length m rest := by
  obtain ⟨rounds, hrounds⟩ : ∃ r, bs.length = r + 1 := ⟨bs.length - 1, by omega⟩
  rw [hrounds, readFields, if_neg (by omega)]
  cases hfield : s.readField levels m bs with
  | error e => rfl
  | ok p =>
      have hlen := readField_length hs hfield
      exact readFields_rounds hs (by omega) (Nat.le_refl _)

theorem length_readFields (hs : s.IsLocal)
    (h : s.readFields levels stop bs.length m bs = .ok (m', rest)) : rest.length ≤ stop := by
  induction hn : bs.length using Nat.strongRecOn generalizing bs m with
  | _ n ih =>
      by_cases hstop : bs.length ≤ stop
      · rw [readFields_of_le hstop] at h
        cases h
        exact hstop
      · rw [readFields_of_gt hs (by omega)] at h
        cases hfield : s.readField levels m bs with
        | error e => rw [hfield] at h; cases h
        | ok p =>
            rw [hfield] at h
            have hlen := readField_length hs hfield
            exact ih p.2.length (by omega) h rfl

theorem length_readFields_le (hs : s.IsLocal)
    (h : s.readFields levels stop bs.length m bs = .ok (m', rest)) : rest.length ≤ bs.length := by
  by_cases hstop : bs.length ≤ stop
  · rw [readFields_of_le hstop] at h
    cases h
    exact Nat.le_refl _
  · have := length_readFields hs h
    omega

/-- The induction is on the number of bytes: a field that is read from `bs`
is read in the same way from `bs ++ tail`. -/
theorem readFields_append (hs : s.IsLocal) (tail : Bytes) {stop' : Nat}
    (hstop' : stop' ≤ stop + tail.length)
    (h : s.readFields levels stop bs.length m bs = .ok (m', rest)) :
    s.readFields levels stop' (bs ++ tail).length m (bs ++ tail) =
      s.readFields levels stop' (rest ++ tail).length m' (rest ++ tail) := by
  induction hn : bs.length using Nat.strongRecOn generalizing bs m with
  | _ n ih =>
      by_cases hstop : bs.length ≤ stop
      · rw [readFields_of_le hstop] at h
        cases h
        rfl
      · rw [readFields_of_gt hs (by omega)] at h
        cases hfield : s.readField levels m bs with
        | error e => rw [hfield] at h; cases h
        | ok p =>
            rw [hfield] at h
            obtain ⟨hmore, hlen⟩ := readField_append hs tail hfield
            rw [readFields_of_gt hs (by rw [List.length_append]; omega), hmore]
            exact ih p.2.length (by omega) h rfl

theorem mergeWithin_eq_ok (hs : s.IsLocal) :
    s.mergeWithin levels m bs = .ok m' ↔ s.readFields levels 0 bs.length m bs = .ok (m', []) := by
  unfold mergeWithin
  cases h : s.readFields levels 0 bs.length m bs with
  | error e => simp [Except.map]
  | ok p =>
      have hend : p.2 = [] := List.eq_nil_of_length_eq_zero (by
        have := length_readFields hs h
        omega)
      obtain ⟨m₁, rest⟩ := p
      obtain rfl : rest = [] := hend
      simp [Except.map]

/-- Decoding a concatenation is decoding its first part and
merging the second. -/
theorem merge_append (hs : s.IsLocal) {x y : Bytes} (h : s.merge m x = .ok m') :
    s.merge m (x ++ y) = s.merge m' y := by
  unfold merge mergeWithin at h ⊢
  cases hx : s.readFields maxLevels 0 x.length m x with
  | error e => rw [hx] at h; cases h
  | ok p =>
      rw [hx] at h
      cases h
      have hempty : p.2 = [] := List.eq_nil_of_length_eq_zero (by
        have := length_readFields hs hx
        omega)
      rw [readFields_append hs y (Nat.zero_le _) hx, hempty, List.nil_append]

end Schema

/-! ## Nested messages -/

namespace Field

variable {α β : Type}

/-- The fields of a nested message of `n` bytes. -/
def readContents (inner : Schema β) (levels n : Nat) (m : β) (bs : Bytes) :
    Except DecodeError (β × Bytes) :=
  if bs.length < n then .error { fault := .underflow }
  else
    match inner.readFields levels (bs.length - n) bs.length m bs with
    | .error e => .error e
    | .ok (m, after) =>
      if after.length = bs.length - n then .ok (m, after)
      else .error { fault := .lengthExceeded }

theorem readContents_eq_ok {inner : Schema β} {levels n : Nat} {m m' : β} {bs rest : Bytes} :
    readContents inner levels n m bs = .ok (m', rest) ↔
      n ≤ bs.length ∧
        inner.readFields levels (bs.length - n) bs.length m bs = .ok (m', rest) ∧
        rest.length = bs.length - n := by
  unfold readContents
  by_cases hshort : bs.length < n
  · rw [if_pos hshort]
    constructor
    · intro h
      cases h
    · rintro ⟨hlen, -⟩
      omega
  · rw [if_neg hshort]
    constructor
    · intro h
      cases hfields : inner.readFields levels (bs.length - n) bs.length m bs with
      | error e => rw [hfields] at h; cases h
      | ok p =>
          by_cases hend : p.2.length = bs.length - n
          · simp only [hfields, if_pos hend] at h
            cases h
            exact ⟨by omega, rfl, hend⟩
          · simp only [hfields, if_neg hend] at h
            cases h
    · rintro ⟨-, hfields, hend⟩
      simp only [hfields, if_pos hend]

/-- The bytes behind a nested message shift the point where its
fields have to end. -/
theorem isLocal_readContents {inner : Schema β} (hinner : inner.IsLocal) (levels n : Nat)
    (m : β) : Wire.IsLocal (readContents inner levels n m) where
  append {bs rest m'} tail h := by
    obtain ⟨hlen, hfields, hend⟩ := readContents_eq_ok.1 h
    have hbs : (bs ++ tail).length = bs.length + tail.length := List.length_append
    have hrest : (rest ++ tail).length = rest.length + tail.length := List.length_append
    apply readContents_eq_ok.2
    refine ⟨by omega, ?_, by omega⟩
    rw [Schema.readFields_append hinner tail (by omega) hfields,
      Schema.readFields_of_le (by omega)]
  length_le {bs rest m'} h := by
    obtain ⟨-, -, hend⟩ := readContents_eq_ok.1 h
    omega

theorem readNested_eq (inner : Schema β) (levels : Nat) (m : β) (bs : Bytes) :
    readNested inner (levels + 1) .lengthDelimited m bs =
      match readVarint bs with
      | .error e => .error { fault := e }
      | .ok (n, rest) => readContents inner levels n m rest := by
  unfold readNested
  rw [show expectWireType .lengthDelimited .lengthDelimited = .ok () from rfl]
  cases readVarint bs <;> rfl

theorem isLocal_readNested {inner : Schema β} (hinner : inner.IsLocal) (levels : Nat)
    (w : WireType) (m : β) : Wire.IsLocal (readNested inner levels w m) := by
  by_cases hw : w = .lengthDelimited
  · subst hw
    cases levels with
    | zero => exact isLocal_error _
    | succ levels =>
        apply (isLocal_readVarint.chain (fun e => { fault := e })
          fun n => isLocal_readContents hinner levels n m).of_eq
        intro bs
        rw [readNested_eq]
        cases readVarint bs <;> rfl
  · unfold readNested
    rw [show expectWireType .lengthDelimited w = .error (.wrongWireType w .lengthDelimited) from
      if_neg hw]
    exact isLocal_error _

theorem isLocal_nested {tag : Nat} {name : String} {inner : Schema β} (hinner : inner.IsLocal)
    (get : α → Option β) (set : α → β → α) : (nested tag name inner get set).IsLocal :=
  fun levels w m =>
    (isLocal_readNested hinner levels w ((get m).getD inner.empty)).map (set m)

end Field

end DistLock.Wire
