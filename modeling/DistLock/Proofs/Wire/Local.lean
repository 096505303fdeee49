import Mathlib.Algebra.Group.Nat.Defs
import DistLock.Wire.Schema

/-!
# Readers look at nothing behind what they take

A reader is local (`IsLocal`) when its success on an input does not depend
on what follows that input, and what follows is left where it is. Readers
are chains of readers, and a chain of local readers is local
(`IsLocal.chain`), so numbers, delimited bytes and every kind of scalar
field are read locally. What is passed over is not a chain: a group tries as
many rounds as there are bytes, and more bytes mean more rounds
(`skipGroup_append`).
-/

namespace DistLock.Wire

/-- A reader whose success does not depend on what follows the
bytes it was given. -/
structure IsLocal {ε β : Type} (read : Bytes → Except ε (β × Bytes)) : Prop where
  append {bs rest : Bytes} {b : β} (tail : Bytes) :
    read bs = .ok (b, rest) → read (bs ++ tail) = .ok (b, rest ++ tail)
  length_le {bs rest : Bytes} {b : β} : read bs = .ok (b, rest) → rest.length ≤ bs.length

/-! ## Chains of readers -/

section Chains

variable {ε ε' β γ : Type}

theorem isLocal_ok (b : β) : IsLocal fun bs => (.ok (b, bs) : Except ε (β × Bytes)) where
  append {bs _ _} tail h := by cases h; rfl
  length_le h := by cases h; exact Nat.le_refl _

theorem isLocal_error (e : ε) : IsLocal fun _ => (.error e : Except ε (β × Bytes)) where
  append _ h := nomatch h
  length_le h := nomatch h

/-- A local reader and then, on what it left, one that depends
on what it read. -/
theorem IsLocal.chain {read : Bytes → Except ε (β × Bytes)}
    {next : β → Bytes → Except ε' (γ × Bytes)} (hread : IsLocal read) (raise : ε → ε')
    (hnext : ∀ b, IsLocal (next b)) :
    IsLocal fun bs =>
      match read bs with
      | .error e => .error (raise e)
      | .ok (b, rest) => next b rest where
  append {bs _ _} tail h := by
    cases hfirst : read bs with
    | error e => rw [hfirst] at h; cases h
    | ok p =>
        rw [hfirst] at h
        rw [hread.append tail hfirst]
        exact (hnext p.1).append tail h
  length_le {bs _ _} h := by
    cases hfirst : read bs with
    | error e => rw [hfirst] at h; cases h
    | ok p =>
        rw [hfirst] at h
        exact Nat.le_trans ((hnext p.1).length_le h) (hread.length_le hfirst)

theorem IsLocal.of_eq {read read' : Bytes → Except ε (β × Bytes)} (hread : IsLocal read)
    (heq : ∀ bs, read' bs = read bs) : IsLocal read' := by
  rwa [show read' = read from funext heq]

theorem IsLocal.map {read : Bytes → Except ε (β × Bytes)} (hread : IsLocal read) (f : β → γ) :
    IsLocal fun bs => (read bs).map fun (b, rest) => (f b, rest) := by
  apply (hread.chain id fun b => isLocal_ok (f b)).of_eq
  intro bs
  cases read bs <;> rfl

theorem IsLocal.mapError {read : Bytes → Except ε (β × Bytes)} (hread : IsLocal read)
    (raise : ε → ε') : IsLocal fun bs => (read bs).mapError raise := by
  apply (hread.chain raise fun b => isLocal_ok b).of_eq
  intro bs
  cases read bs <;> rfl

/-- The next `n` bytes, when there are so many. -/
theorem isLocal_take (n : Nat) (e : ε) :
    IsLocal fun bs => if bs.length < n then .error e else .ok (bs.take n, bs.drop n) where
  append {bs _ _} tail h := by
    by_cases hshort : bs.length < n
    · rw [if_pos hshort] at h
      cases h
    · rw [if_neg hshort] at h
      cases h
      have hlen : n ≤ bs.length := by omega
      rw [if_neg (by rw [List.length_append]; omega), List.take_append_of_le_length hlen,
        List.drop_append_of_le_length hlen]
  length_le {bs _ _} h := by
    by_cases hshort : bs.length < n
    · rw [if_pos hshort] at h
      cases h
    · rw [if_neg hshort] at h
      cases h
      rw [List.length_drop]
      omega

end Chains

/-! ## Numbers, keys and skipped values -/

theorem readVarintWithin_append {left : Nat} {bs rest : Bytes} {n : Nat} (tail : Bytes)
    (h : readVarintWithin left bs = .ok (n, rest)) :
    readVarintWithin left (bs ++ tail) = .ok (n, rest ++ tail) := by
  induction left generalizing bs n with
  | zero => cases h
  | succ left ih =>
      cases bs with
      | nil => cases h
      | cons b bs =>
          rw [List.cons_append, readVarintWithin]
          rw [readVarintWithin] at h
          by_cases hlast : b < 128
          · rw [if_pos hlast] at h ⊢
            split at h
            · cases h
            · rename_i hfits
              rw [if_neg hfits]
              cases h
              rfl
          · rw [if_neg hlast] at h ⊢
            cases hrec : readVarintWithin left bs with
            | error e => rw [hrec] at h; cases h
            | ok p =>
                rw [hrec] at h
                cases h
                rw [ih hrec]

theorem isLocal_readVarint : IsLocal readVarint where
  append tail h := readVarintWithin_append tail h
  length_le h := Nat.le_of_lt (readVarint_length h)

/-- What the number of a key says. -/
def keyOfNumber (key : Nat) : Except Fault (Nat × WireType) :=
  if 2 ^ 32 ≤ key then .error (.invalidKey key)
  else
    match WireType.ofCode? (key % 8) with
    | none => .error (.unknownWireType (key % 8))
    | some w => if key / 8 = 0 then .error .zeroTag else .ok (key / 8, w)

theorem readKey_eq (bs : Bytes) :
    readKey bs =
      match readVarint bs with
      | .error e => .error e
      | .ok (key, rest) => (keyOfNumber key).map fun (tag, w) => (tag, w, rest) := by
  unfold readKey
  cases readVarint bs with
  | error e => rfl
  | ok p =>
      obtain ⟨key, rest⟩ := p
      show (if 2 ^ 32 ≤ key then _ else _) = (keyOfNumber key).map _
      rw [keyOfNumber]
      by_cases hlarge : 2 ^ 32 ≤ key
      · rw [if_pos hlarge, if_pos hlarge]
        rfl
      · rw [if_neg hlarge, if_neg hlarge]
        cases WireType.ofCode? (key % 8) with
        | none => rfl
        | some w => by_cases hzero : key / 8 = 0 <;> simp [hzero] <;> rfl

theorem readKey_eq_ok {bs rest : Bytes} {tag : Nat} {w : WireType} :
    readKey bs = .ok (tag, w, rest) ↔
      ∃ key, readVarint bs = .ok (key, rest) ∧ keyOfNumber key = .ok (tag, w) := by
  rw [readKey_eq]
  constructor
  · intro h
    cases hread : readVarint bs with
    | error e => rw [hread] at h; cases h
    | ok p =>
        rw [hread] at h
        cases hkey : keyOfNumber p.1 with
        | error e => simp only [hkey] at h; cases h
        | ok k =>
            simp only [hkey] at h
            cases h
            exact ⟨p.1, rfl, hkey⟩
  · rintro ⟨key, hread, hkey⟩
    rw [hread]
    show (keyOfNumber key).map _ = _
    rw [hkey]
    rfl

theorem readKey_append {bs rest : Bytes} {tag : Nat} {w : WireType} (tail : Bytes)
    (h : readKey bs = .ok (tag, w, rest)) : readKey (bs ++ tail) = .ok (tag, w, rest ++ tail) := by
  obtain ⟨key, hread, hkey⟩ := readKey_eq_ok.1 h
  exact readKey_eq_ok.2 ⟨key, readVarintWithin_append tail hread, hkey⟩

theorem readKey_length {bs rest : Bytes} {tag : Nat} {w : WireType}
    (h : readKey bs = .ok (tag, w, rest)) : rest.length < bs.length := by
  obtain ⟨key, hread, -⟩ := readKey_eq_ok.1 h
  exact readVarint_length hread

/-- Passing over bytes, as a reader of nothing. -/
def readNothing (pass : Bytes → Except Fault Bytes) (bs : Bytes) : Except Fault (Unit × Bytes) :=
  (pass bs).map ((), ·)

theorem readNothing_eq_ok {pass : Bytes → Except Fault Bytes} {bs rest : Bytes} :
    readNothing pass bs = .ok ((), rest) ↔ pass bs = .ok rest := by
  unfold readNothing
  cases pass bs <;> simp [Except.map]

theorem isLocal_skipBytes (n : Nat) : IsLocal (readNothing (skipBytes n)) := by
  apply ((isLocal_take n Fault.underflow).map fun _ => ()).of_eq
  intro bs
  unfold readNothing skipBytes
  by_cases hshort : bs.length < n
  · rw [if_pos hshort, if_pos hshort]
    rfl
  · rw [if_neg hshort, if_neg hshort]
    rfl

/-- The induction is on the rounds; a longer input may have more of them. -/
theorem skipGroup_append {pass : Nat → WireType → Bytes → Except Fault Bytes}
    (hpass : ∀ tag w, IsLocal (readNothing (pass tag w))) {tag rounds rounds' : Nat}
    {bs rest : Bytes} (tail : Bytes) (hrounds : rounds ≤ rounds')
    (h : skipGroup pass tag rounds bs = .ok rest) :
    skipGroup pass tag rounds' (bs ++ tail) = .ok (rest ++ tail) ∧ rest.length ≤ bs.length := by
  induction rounds generalizing rounds' bs with
  | zero => cases h
  | succ rounds ih =>
      obtain ⟨rounds', rfl⟩ : ∃ r, rounds' = r + 1 := ⟨rounds' - 1, by omega⟩
      rw [skipGroup] at h ⊢
      cases hkey : readKey bs with
      | error e => rw [hkey] at h; cases h
      | ok p =>
          obtain ⟨inner, w, after⟩ := p
          have hafter := readKey_length hkey
          rw [hkey] at h
          rw [readKey_append tail hkey]
          by_cases hend : w = .endGroup
          · subst hend
            by_cases htag : inner = tag
            · simp only [htag, if_true] at h ⊢
              cases h
              exact ⟨rfl, by omega⟩
            · simp only [htag, if_false] at h
              cases h
          · simp only at h ⊢
            cases hinner : pass inner w after with
            | error e => rw [hinner] at h; cases h
            | ok next =>
                rw [hinner] at h
                have hread := readNothing_eq_ok.2 hinner
                have hnext := (hpass inner w).length_le hread
                rw [readNothing_eq_ok.1 ((hpass inner w).append tail hread)]
                obtain ⟨happend, hlen⟩ := ih (Nat.le_of_succ_le_succ hrounds) h
                exact ⟨happend, by omega⟩

theorem isLocal_skip (levels tag : Nat) (w : WireType) :
    IsLocal (readNothing (skip levels tag w)) := by
  induction levels generalizing tag w with
  | zero => exact isLocal_error Fault.tooDeep
  | succ levels ih =>
      cases w with
      | varint =>
          apply (isLocal_readVarint.map fun _ => ()).of_eq
          intro bs
          unfold readNothing skip
          cases readVarint bs <;> rfl
      | sixtyFourBit => exact isLocal_skipBytes 8
      | thirtyTwoBit => exact isLocal_skipBytes 4
      | lengthDelimited =>
          apply (isLocal_readVarint.chain id isLocal_skipBytes).of_eq
          intro bs
          unfold readNothing skip
          cases readVarint bs <;> rfl
      | endGroup => exact isLocal_error Fault.strayEndGroup
      | startGroup =>
          have hgroup {bs rest : Bytes} {u : Unit} (tail : Bytes)
              (h : readNothing (skip (levels + 1) tag .startGroup) bs = .ok (u, rest)) :
              skip (levels + 1) tag .startGroup (bs ++ tail) = .ok (rest ++ tail) ∧
                rest.length ≤ bs.length :=
            skipGroup_append ih tail (by rw [List.length_append]; omega) (readNothing_eq_ok.1 h)
          exact ⟨fun tail h => readNothing_eq_ok.2 (hgroup tail h).1, fun h => (hgroup [] h).2⟩

/-! ## Kinds of field -/

theorem isLocal_readDelimited : IsLocal readDelimited :=
  (isLocal_readVarint.chain id fun n => isLocal_take n Fault.underflow).of_eq
    fun bs => by unfold readDelimited; cases readVarint bs <;> rfl

namespace Field

variable {α : Type}

/-- A field is local when all its readers are. -/
def IsLocal (f : Field α) : Prop := ∀ levels w m, Wire.IsLocal (f.read levels w m)

theorem isLocal_readText : Wire.IsLocal readText := by
  have hcontent (content : Bytes) : Wire.IsLocal fun bs =>
      (textOfBytes? content).elim (.error Fault.invalidText) fun s => .ok (s, bs) := by
    cases textOfBytes? content with
    | none => exact isLocal_error Fault.invalidText
    | some s => exact isLocal_ok s
  apply (isLocal_readDelimited.chain id hcontent).of_eq
  intro bs
  unfold readText
  cases readDelimited bs with
  | error e => rfl
  | ok p =>
      obtain ⟨content, rest⟩ := p
      cases ht : textOfBytes? content <;> simp only [ht, Option.elim]

theorem isLocal_readScalar {β : Type} {expected w : WireType} {set : α → β → α} {m : α}
    {read : Bytes → Except Fault (β × Bytes)} (hread : Wire.IsLocal read) :
    Wire.IsLocal (readScalar expected read set w m) := by
  unfold readScalar
  cases expectWireType expected w with
  | error e => exact isLocal_error _
  | ok u =>
      apply (hread.chain (fun e => { fault := e }) fun v => isLocal_ok (set m v)).of_eq
      intro bs
      cases read bs <;> rfl

theorem isLocal_text (tag : Nat) (name : String) (get : α → String) (set : α → String → α) :
    (text tag name get set).IsLocal := fun _ _ _ => isLocal_readScalar isLocal_readText

theorem isLocal_readInt32 : Wire.IsLocal readInt32 := isLocal_readVarint.map int32OfVarint

theorem isLocal_int32 (tag : Nat) (name : String) (get : α → Int32) (set : α → Int32 → α) :
    (int32 tag name get set).IsLocal := fun _ _ _ => isLocal_readScalar isLocal_readInt32

theorem isLocal_optionalInt32 (tag : Nat) (name : String) (get : α → Option Int32)
    (set : α → Int32 → α) : (optionalInt32 tag name get set).IsLocal :=
  fun _ _ _ => isLocal_readScalar isLocal_readInt32

theorem isLocal_flag (tag : Nat) (name : String) (get : α → Bool) (set : α → Bool → α) :
    (flag tag name get set).IsLocal :=
  fun _ _ _ => isLocal_readScalar (isLocal_readVarint.map (· != 0))

end Field

end DistLock.Wire
