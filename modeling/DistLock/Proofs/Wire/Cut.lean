import DistLock.Proofs.Wire.Roundtrip

/-!
# Readers do not need what they leave

A reader can be cut (`IsCuttable`) when bytes that it leaves at the end
of its input may as well not be there: without them it reads the same.
That is the other direction of locality, and again chains of such
readers are such readers.

The fields of a nested message are read from all the bytes there are, and
the length of the message only says where they have to end. So they may read
bytes behind it, but then they cannot end there: the contents of a nested
message are read exactly when they can be merged alone
(`readContents_eq_ok_iff`).
-/

namespace DistLock.Wire

/-- A local reader that reads the same when bytes it leaves at the end of
its input are cut off. -/
structure IsCuttable {ε β : Type} (read : Bytes → Except ε (β × Bytes)) : Prop
    extends IsLocal read where
  cut {bs tail rest : Bytes} {b : β} : read (bs ++ tail) = .ok (b, rest) →
    tail.length ≤ rest.length → ∃ rest', rest = rest' ++ tail ∧ read bs = .ok (b, rest')

/-! ## Chains of readers -/

section Chains

variable {ε ε' β γ : Type}

theorem isCuttable_ok (b : β) : IsCuttable fun bs => (.ok (b, bs) : Except ε (β × Bytes)) where
  toIsLocal := isLocal_ok b
  cut {bs _ _ _} h _ := by
    cases h
    exact ⟨bs, rfl, rfl⟩

theorem isCuttable_error (e : ε) : IsCuttable fun _ => (.error e : Except ε (β × Bytes)) where
  toIsLocal := isLocal_error e
  cut h _ := nomatch h

theorem IsCuttable.chain {read : Bytes → Except ε (β × Bytes)}
    {next : β → Bytes → Except ε' (γ × Bytes)} (hread : IsCuttable read) (raise : ε → ε')
    (hnext : ∀ b, IsCuttable (next b)) :
    IsCuttable fun bs =>
      match read bs with
      | .error e => .error (raise e)
      | .ok (b, rest) => next b rest where
  toIsLocal := hread.toIsLocal.chain raise fun b => (hnext b).toIsLocal
  cut {bs tail rest c} h hlen := by
    cases hfirst : read (bs ++ tail) with
    | error e => rw [hfirst] at h; cases h
    | ok p =>
        rw [hfirst] at h
        -- what the second reader leaves, the first has left before
        have hmid : tail.length ≤ p.2.length := Nat.le_trans hlen ((hnext p.1).length_le h)
        obtain ⟨mid, hmid, hcut⟩ := hread.cut hfirst hmid
        simp only [hmid] at h
        rw [hcut]
        exact (hnext p.1).cut h hlen

theorem IsCuttable.of_eq {read read' : Bytes → Except ε (β × Bytes)} (hread : IsCuttable read)
    (heq : ∀ bs, read' bs = read bs) : IsCuttable read' := by
  rwa [show read' = read from funext heq]

theorem IsCuttable.map {read : Bytes → Except ε (β × Bytes)} (hread : IsCuttable read)
    (f : β → γ) : IsCuttable fun bs => (read bs).map fun (b, rest) => (f b, rest) := by
  apply (hread.chain id fun b => isCuttable_ok (f b)).of_eq
  intro bs
  cases read bs <;> rfl

theorem IsCuttable.mapError {read : Bytes → Except ε (β × Bytes)} (hread : IsCuttable read)
    (raise : ε → ε') : IsCuttable fun bs => (read bs).mapError raise := by
  apply (hread.chain raise fun b => isCuttable_ok b).of_eq
  intro bs
  cases read bs <;> rfl

theorem isCuttable_take (n : Nat) (e : ε) :
    IsCuttable fun bs => if bs.length < n then .error e else .ok (bs.take n, bs.drop n) where
  toIsLocal := isLocal_take n e
  cut {bs tail rest b} h hlen := by
    by_cases hshort : (bs ++ tail).length < n
    · rw [if_pos hshort] at h
      cases h
    · rw [if_neg hshort] at h
      cases h
      rw [List.length_drop, List.length_append] at hlen
      rw [List.length_append] at hshort
      have hbs : n ≤ bs.length := by omega
      refine ⟨bs.drop n, List.drop_append_of_le_length hbs, ?_⟩
      rw [if_neg (by omega), List.take_append_of_le_length hbs]

end Chains

/-! ## Numbers, keys and skipped values -/

theorem readVarintWithin_cut {left n : Nat} {bs tail rest : Bytes}
    (h : readVarintWithin left (bs ++ tail) = .ok (n, rest)) (hlen : tail.length ≤ rest.length) :
    ∃ rest', rest = rest' ++ tail ∧ readVarintWithin left bs = .ok (n, rest') := by
  induction left generalizing bs n with
  | zero => cases h
  | succ left ih =>
      cases bs with
      | nil =>
          -- a number takes a byte, so it has not been read from `tail` alone
          have hused := readVarintWithin_length h
          rw [List.nil_append] at hused
          omega
      | cons b bs =>
          rw [List.cons_append, readVarintWithin] at h
          rw [readVarintWithin]
          by_cases hlast : b < 128
          · rw [if_pos hlast] at h ⊢
            split at h
            · cases h
            · rename_i hfits
              rw [if_neg hfits]
              cases h
              exact ⟨bs, rfl, rfl⟩
          · rw [if_neg hlast] at h ⊢
            cases hrec : readVarintWithin left (bs ++ tail) with
            | error e => rw [hrec] at h; cases h
            | ok p =>
                rw [hrec] at h
                cases h
                obtain ⟨rest', hrest, hcut⟩ := ih hrec
                exact ⟨rest', hrest, by rw [hcut]⟩

theorem isCuttable_readVarint : IsCuttable readVarint where
  toIsLocal := isLocal_readVarint
  cut h hlen := readVarintWithin_cut h hlen

theorem readKey_cut {bs tail rest : Bytes} {tag : Nat} {w : WireType}
    (h : readKey (bs ++ tail) = .ok (tag, w, rest)) (hlen : tail.length ≤ rest.length) :
    ∃ rest', rest = rest' ++ tail ∧ readKey bs = .ok (tag, w, rest') := by
  obtain ⟨key, hread, hkey⟩ := readKey_eq_ok.1 h
  obtain ⟨rest', hrest, hcut⟩ := readVarintWithin_cut hread hlen
  exact ⟨rest', hrest, readKey_eq_ok.2 ⟨key, hcut, hkey⟩⟩

theorem isCuttable_skipBytes (n : Nat) : IsCuttable (readNothing (skipBytes n)) := by
  apply ((isCuttable_take n Fault.underflow).map fun _ => ()).of_eq
  intro bs
  unfold readNothing skipBytes
  by_cases hshort : bs.length < n
  · rw [if_pos hshort, if_pos hshort]
    rfl
  · rw [if_neg hshort, if_neg hshort]
    rfl

/-- The induction is on the rounds; a shorter input needs no more rounds
than it has bytes. -/
theorem skipGroup_cut {pass : Nat → WireType → Bytes → Except Fault Bytes}
    (hpass : ∀ tag w, IsCuttable (readNothing (pass tag w))) {tag rounds rounds' : Nat}
    {bs tail rest : Bytes} (hrounds : bs.length < rounds')
    (h : skipGroup pass tag rounds (bs ++ tail) = .ok rest) (hlen : tail.length ≤ rest.length) :
    ∃ rest', rest = rest' ++ tail ∧ skipGroup pass tag rounds' bs = .ok rest' := by
  induction rounds generalizing rounds' bs with
  | zero => cases h
  | succ rounds ih =>
      obtain ⟨rounds', rfl⟩ : ∃ r, rounds' = r + 1 := ⟨rounds' - 1, by omega⟩
      rw [skipGroup] at h ⊢
      cases hkey : readKey (bs ++ tail) with
      | error e => rw [hkey] at h; cases h
      | ok p =>
          obtain ⟨inner, w, after⟩ := p
          rw [hkey] at h
          by_cases hend : w = .endGroup
          · subst hend
            by_cases htag : inner = tag
            · simp only [htag, if_true] at h
              cases h
              obtain ⟨rest', hrest, hcut⟩ := readKey_cut hkey hlen
              refine ⟨rest', hrest, ?_⟩
              rw [hcut]
              simp only [htag, if_true]
            · simp only [htag, if_false] at h
              cases h
          · simp only at h
            cases hinner : pass inner w after with
            | error e => rw [hinner] at h; cases h
            | ok next =>
                rw [hinner] at h
                have hread := readNothing_eq_ok.2 hinner
                have hnext := (hpass inner w).length_le hread
                have hrest : rest.length ≤ next.length :=
                  (skipGroup_append (fun tag w => (hpass tag w).toIsLocal) [] (Nat.le_refl _) h).2
                obtain ⟨after', rfl, hcut⟩ := readKey_cut hkey (by omega)
                have hafter := readKey_length hcut
                obtain ⟨next', rfl, hcut'⟩ := (hpass inner w).cut hread (by omega)
                have hless := (hpass inner w).length_le hcut'
                rw [hcut]
                simp only [readNothing_eq_ok.1 hcut']
                exact ih (by omega) h

theorem isCuttable_skip (levels tag : Nat) (w : WireType) :
    IsCuttable (readNothing (skip levels tag w)) := by
  induction levels generalizing tag w with
  | zero => exact isCuttable_error Fault.tooDeep
  | succ levels ih =>
      cases w with
      | varint =>
          apply (isCuttable_readVarint.map fun _ => ()).of_eq
          intro bs
          unfold readNothing skip
          cases readVarint bs <;> rfl
      | sixtyFourBit => exact isCuttable_skipBytes 8
      | thirtyTwoBit => exact isCuttable_skipBytes 4
      | lengthDelimited =>
          apply (isCuttable_readVarint.chain id isCuttable_skipBytes).of_eq
          intro bs
          unfold readNothing skip
          cases readVarint bs <;> rfl
      | endGroup => exact isCuttable_error Fault.strayEndGroup
      | startGroup =>
          refine ⟨isLocal_skip (levels + 1) tag .startGroup, ?_⟩
          intro bs tail rest u h hlen
          obtain ⟨rest', hrest, hcut⟩ :=
            skipGroup_cut ih (Nat.lt_succ_self bs.length) (readNothing_eq_ok.1 h) hlen
          exact ⟨rest', hrest, readNothing_eq_ok.2 hcut⟩

/-! ## Scalars -/

theorem isCuttable_readDelimited : IsCuttable readDelimited :=
  (isCuttable_readVarint.chain id fun n => isCuttable_take n Fault.underflow).of_eq
    fun bs => by unfold readDelimited; cases readVarint bs <;> rfl

namespace Field

variable {α : Type}

/-- A field can be cut when all its readers can. -/
def IsCuttable (f : Field α) : Prop := ∀ levels w m, Wire.IsCuttable (f.read levels w m)

theorem isCuttable_readText : Wire.IsCuttable readText := by
  have hcontent (content : Bytes) : Wire.IsCuttable fun bs =>
      (textOfBytes? content).elim (.error Fault.invalidText) fun s => .ok (s, bs) := by
    cases textOfBytes? content with
    | none => exact isCuttable_error Fault.invalidText
    | some s => exact isCuttable_ok s
  apply (isCuttable_readDelimited.chain id hcontent).of_eq
  intro bs
  unfold readText
  cases readDelimited bs with
  | error e => rfl
  | ok p =>
      obtain ⟨content, rest⟩ := p
      cases ht : textOfBytes? content <;> simp only [ht, Option.elim]

theorem isCuttable_readScalar {β : Type} {expected w : WireType} {set : α → β → α} {m : α}
    {read : Bytes → Except Fault (β × Bytes)} (hread : Wire.IsCuttable read) :
    Wire.IsCuttable (readScalar expected read set w m) := by
  unfold readScalar
  cases expectWireType expected w with
  | error e => exact isCuttable_error _
  | ok u =>
      apply (hread.chain (fun e => { fault := e }) fun v => isCuttable_ok (set m v)).of_eq
      intro bs
      cases read bs <;> rfl

theorem isCuttable_text (tag : Nat) (name : String) (get : α → String) (set : α → String → α) :
    (text tag name get set).IsCuttable := fun _ _ _ => isCuttable_readScalar isCuttable_readText

theorem isCuttable_int32 (tag : Nat) (name : String) (get : α → Int32) (set : α → Int32 → α) :
    (int32 tag name get set).IsCuttable :=
  fun _ _ _ => isCuttable_readScalar (isCuttable_readVarint.map int32OfVarint)

end Field

/-! ## Fields -/

namespace Schema

variable {α : Type} {s : Schema α} {levels stop : Nat} {m m' : α} {bs tail rest : Bytes}

/-- A table can be cut when all its fields can. -/
def IsCuttable (s : Schema α) : Prop := ∀ f ∈ s.fields, f.IsCuttable

theorem IsCuttable.isLocal (hs : s.IsCuttable) : s.IsLocal :=
  fun f hf levels w m => (hs f hf levels w m).toIsLocal

theorem readField_cut (hs : s.IsCuttable) (h : s.readField levels m (bs ++ tail) = .ok (m', rest))
    (hlen : tail.length ≤ rest.length) :
    ∃ rest', rest = rest' ++ tail ∧ s.readField levels m bs = .ok (m', rest') := by
  unfold readField at h ⊢
  cases hkey : readKey (bs ++ tail) with
  | error e => rw [hkey] at h; cases h
  | ok p =>
      obtain ⟨tag, w, after⟩ := p
      rw [hkey] at h
      cases hfind : s.fields.find? (·.tag == tag) with
      | some f =>
          have hf := hs f (List.mem_of_find?_eq_some hfind) levels w m
          have hcuttable := hf.mapError (·.inside ⟨s.name, f.name⟩)
          simp only [hfind] at h
          have hafter := hcuttable.length_le h
          obtain ⟨after', rfl, hcut⟩ := readKey_cut hkey (by omega)
          rw [hcut]
          simp only [hfind]
          exact hcuttable.cut h hlen
      | none =>
          simp only [hfind] at h
          cases hskip : skip levels tag w after with
          | error e => rw [hskip] at h; cases h
          | ok next =>
              rw [hskip] at h
              cases h
              have hread := readNothing_eq_ok.2 hskip
              have hafter := (isCuttable_skip levels tag w).length_le hread
              obtain ⟨after', rfl, hcut⟩ := readKey_cut hkey (by omega)
              obtain ⟨rest', hrest, hcut'⟩ := (isCuttable_skip levels tag w).cut hread hlen
              refine ⟨rest', hrest, ?_⟩
              rw [hcut]
              simp only [hfind, readNothing_eq_ok.1 hcut']

/-- The induction is on the number of bytes: each field is read in the same
way without what is behind `bs`. -/
theorem readFields_cut (hs : s.IsCuttable)
    (h : s.readFields levels (stop + tail.length) (bs ++ tail).length m (bs ++ tail) =
      .ok (m', rest))
    (hlen : tail.length ≤ rest.length) :
    ∃ rest', rest = rest' ++ tail ∧ s.readFields levels stop bs.length m bs = .ok (m', rest') := by
  induction hn : bs.length using Nat.strongRecOn generalizing bs m with
  | _ n ih =>
      have hsum : (bs ++ tail).length = bs.length + tail.length := List.length_append
      rw [← hn]
      by_cases hstop : bs.length ≤ stop
      · rw [readFields_of_le (by omega)] at h
        cases h
        exact ⟨bs, rfl, readFields_of_le hstop⟩
      · rw [readFields_of_gt hs.isLocal (by omega)] at h
        rw [readFields_of_gt hs.isLocal (by omega)]
        cases hfield : s.readField levels m (bs ++ tail) with
        | error e => rw [hfield] at h; cases h
        | ok p =>
            rw [hfield] at h
            have hafter := length_readFields_le hs.isLocal h
            obtain ⟨after, hafter', hcut⟩ := readField_cut hs hfield (by omega)
            have hless := readField_length hs.isLocal hcut
            simp only [hafter'] at h
            rw [hcut]
            exact ih after.length (by omega) h rfl

end Schema

/-! ## Nested messages -/

namespace Field

variable {α β : Type} {inner : Schema β} {levels : Nat} {m m' : β} {p y rest : Bytes}

/-- The contents of a nested message are read exactly when they can
be merged alone. -/
theorem readContents_eq_ok_iff (hinner : inner.IsCuttable) :
    readContents inner levels p.length m (p ++ y) = .ok (m', rest) ↔
      rest = y ∧ inner.mergeWithin levels m p = .ok m' := by
  have hsum : (p ++ y).length = p.length + y.length := List.length_append
  have hstop : (p ++ y).length - p.length = 0 + y.length := by omega
  rw [readContents_eq_ok, hstop, Schema.mergeWithin_eq_ok hinner.isLocal]
  constructor
  · rintro ⟨-, hfields, hend⟩
    obtain ⟨rest', rfl, hcut⟩ := Schema.readFields_cut hinner hfields (by omega)
    rw [List.length_append] at hend
    obtain rfl : rest' = [] := List.eq_nil_of_length_eq_zero (by omega)
    exact ⟨rfl, hcut⟩
  · rintro ⟨rfl, hfields⟩
    refine ⟨by omega, ?_, by omega⟩
    rw [Schema.readFields_append hinner.isLocal rest (Nat.le_refl _) hfields, List.nil_append,
      Schema.readFields_of_le (by omega)]

end Field

namespace Schema

variable {α β : Type} {s : Schema α} {inner : Schema β} {tag levels : Nat} {name : String}
  {get : α → Option β} {set : α → β → α} {m : α} {p y : Bytes} {v : β}

/-- The bytes of a nested message that is given by its contents. -/
def writeContents (tag : Nat) (p : Bytes) : Bytes :=
  writeKey tag .lengthDelimited ++ writeDelimited p

theorem readField_writeContents (hs : s.Sound)
    (hf : Field.nested tag name inner get set ∈ s.fields) (hp : p.length < 2 ^ 64) :
    s.readField (levels + 1) m (writeContents tag p ++ y) =
      ((Field.readContents inner levels p.length ((get m).getD inner.empty) (p ++ y)).map
        fun (v, rest) => (set m v, rest)).mapError (·.inside ⟨s.name, name⟩) := by
  obtain ⟨hpos, hlt⟩ := hs.tags_fit tag (List.mem_map_of_mem hf)
  have hfind : s.fields.find? (·.tag == tag) = some (Field.nested tag name inner get set) :=
    hs.find?_tag hf
  unfold readField writeContents
  rw [List.append_assoc, readKey_writeKey .lengthDelimited _ hpos hlt]
  simp only [hfind]
  show ((Field.readNested inner (levels + 1) .lengthDelimited _ _).map _).mapError _ = _
  rw [Field.readNested_eq, writeDelimited, List.append_assoc, readVarint_writeVarint _ hp]
  rfl

theorem length_writeContents_pos (tag : Nat) (p : Bytes) : 0 < (writeContents tag p).length := by
  have hkey := length_writeKey_pos tag .lengthDelimited
  rw [writeContents, List.length_append]
  omega

/-- Contents that are read in the same way make no difference to what
is behind them. -/
theorem mergeWithin_writeContents_congr (hs : s.Sound)
    (hf : Field.nested tag name inner get set ∈ s.fields) {p' : Bytes} (hp : p.length < 2 ^ 64)
    (hp' : p'.length < 2 ^ 64)
    (h : Field.readContents inner levels p.length ((get m).getD inner.empty) (p ++ y) =
      Field.readContents inner levels p'.length ((get m).getD inner.empty) (p' ++ y)) :
    s.mergeWithin (levels + 1) m (writeContents tag p ++ y) =
      s.mergeWithin (levels + 1) m (writeContents tag p' ++ y) := by
  have hpos := length_writeContents_pos tag p
  have hpos' := length_writeContents_pos tag p'
  unfold mergeWithin
  rw [readFields_of_gt hs.isLocal (by rw [List.length_append]; omega),
    readFields_of_gt hs.isLocal (by rw [List.length_append]; omega),
    readField_writeContents hs hf hp, readField_writeContents hs hf hp', h]

/-- Contents that can be merged alone are merged into the nested message,
and nothing else is. -/
theorem mergeWithin_writeContents (hs : s.Sound) (hinner : inner.IsCuttable)
    (hf : Field.nested tag name inner get set ∈ s.fields) (hp : p.length < 2 ^ 64)
    (h : inner.mergeWithin levels ((get m).getD inner.empty) p = .ok v) :
    s.mergeWithin (levels + 1) m (writeContents tag p ++ y) =
      s.mergeWithin (levels + 1) (set m v) y := by
  have hcontents := (Field.readContents_eq_ok_iff (y := y) hinner).2 ⟨rfl, h⟩
  have hpos := length_writeContents_pos tag p
  unfold mergeWithin
  rw [readFields_of_gt hs.isLocal (by rw [List.length_append]; omega),
    readField_writeContents hs hf hp, hcontents]
  rfl

/-- Contents that cannot be merged alone cannot be merged with
anything behind them. -/
theorem mergeWithin_writeContents_error (hs : s.Sound) (hinner : inner.IsCuttable)
    (hf : Field.nested tag name inner get set ∈ s.fields) (hp : p.length < 2 ^ 64)
    {fault : DecodeError}
    (h : inner.mergeWithin levels ((get m).getD inner.empty) p = .error fault) :
    ∃ fault', s.mergeWithin (levels + 1) m (writeContents tag p ++ y) = .error fault' := by
  have hpos := length_writeContents_pos tag p
  unfold mergeWithin
  rw [readFields_of_gt hs.isLocal (by rw [List.length_append]; omega),
    readField_writeContents hs hf hp]
  cases hread : Field.readContents inner levels p.length ((get m).getD inner.empty) (p ++ y) with
  | error e => exact ⟨_, rfl⟩
  | ok q =>
      have hmerge := ((Field.readContents_eq_ok_iff hinner).1 hread).2
      rw [h] at hmerge
      cases hmerge

end Schema

end DistLock.Wire
