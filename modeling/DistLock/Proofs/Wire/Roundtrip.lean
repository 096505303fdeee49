import DistLock.Proofs.Wire.Merge
import DistLock.Proofs.Wire.Varint

/-!
# Reading what was written

`Field.Takes f levels b a a'` says that what the field `f` writes of the
message `b`, read into the message `a`, gives `a'`, whatever follows.
Either nothing is written and `a' = a`, or a key and a payload are, and the
reader of `f` takes just that payload. Over the fields of a table this
becomes `Schema.Takes`, and reading the whole encoding of `b` into `a`
gives `a'` (`merge_encode`).

`Schema.Sound` collects what that needs of a table, whatever the message:
its fields are local and measure what they write, and their tags are numbers
of 29 bits of which no two are equal.
-/

namespace DistLock.Wire

/-! ## Keys and scalars -/

theorem keyOfNumber_code {tag : Nat} (w : WireType) (hpos : 0 < tag) (hlt : tag < 2 ^ 29) :
    keyOfNumber (8 * tag + w.code) = .ok (tag, w) := by
  have hcode := w.code_lt
  rw [keyOfNumber, if_neg (by omega), show (8 * tag + w.code) % 8 = w.code by omega,
    show (8 * tag + w.code) / 8 = tag by omega, WireType.ofCode?_code]
  show (if tag = 0 then _ else _) = _
  rw [if_neg (by omega)]

theorem readKey_writeKey {tag : Nat} (w : WireType) (rest : Bytes) (hpos : 0 < tag)
    (hlt : tag < 2 ^ 29) : readKey (writeKey tag w ++ rest) = .ok (tag, w, rest) := by
  have hcode := w.code_lt
  exact readKey_eq_ok.2
    ⟨8 * tag + w.code, readVarint_writeVarint rest (by omega), keyOfNumber_code w hpos hlt⟩

theorem length_writeKey (tag : Nat) (w : WireType) :
    (writeKey tag w).length = varintSize (8 * tag + w.code) := length_writeVarint _

theorem length_writeKey_pos (tag : Nat) (w : WireType) : 0 < (writeKey tag w).length := by
  rw [length_writeKey]
  exact Nat.succ_pos _

theorem readDelimited_writeDelimited {bs : Bytes} (rest : Bytes) (h : bs.length < 2 ^ 64) :
    readDelimited (writeDelimited bs ++ rest) = .ok (bs, rest) := by
  unfold readDelimited writeDelimited
  rw [List.append_assoc, readVarint_writeVarint _ h]
  show (if (bs ++ rest).length < bs.length then _ else _) = _
  rw [if_neg (by rw [List.length_append]; omega), List.take_left, List.drop_left]

theorem length_writeDelimited (bs : Bytes) :
    (writeDelimited bs).length = varintSize bs.length + bs.length := by
  rw [writeDelimited, List.length_append, length_writeVarint]

theorem length_bytesOfText (s : String) : (bytesOfText s).length = s.utf8ByteSize := rfl

theorem textOfBytes?_bytesOfText (s : String) : textOfBytes? (bytesOfText s) = some s := by
  show String.fromUTF8? s.toByteArray = some s
  unfold String.fromUTF8?
  rw [dif_pos s.isValidUTF8]
  rfl

theorem varintOfInt32_lt (n : Int32) : varintOfInt32 n < 2 ^ 64 := by
  unfold varintOfInt32
  rw [show Int.pow 2 64 = 18446744073709551616 by decide]
  omega

/-- Negative numbers are taken modulo 2^64 and then, by their
low 32 bits, back. -/
theorem int32OfVarint_varintOfInt32 (n : Int32) : int32OfVarint (varintOfInt32 n) = n := by
  unfold int32OfVarint varintOfInt32
  have hlow := Int32.le_toInt n
  have hhigh := Int32.toInt_lt n
  rw [Int32.ofInt_eq_iff_bmod_eq_toInt, Int.toNat_of_nonneg (Int.emod_nonneg _ (by decide)),
    show Int.pow 2 64 = 18446744073709551616 by decide, Int.bmod_def]
  omega

/-! ## What tables have to meet -/

/-- What a field has to meet so that others can stand beside it. -/
structure Field.Sound {α : Type} (f : Field α) : Prop where
  isLocal : f.IsLocal
  size_eq : ∀ m, f.size m = (f.write m).length

/-- What a table has to meet. -/
structure Schema.Sound {α : Type} (s : Schema α) : Prop where
  fields : ∀ f ∈ s.fields, f.Sound
  tags_fit : ∀ tag ∈ s.fields.map (·.tag), 0 < tag ∧ tag < 2 ^ 29
  tags_nodup : (s.fields.map (·.tag)).Nodup

namespace Field

variable {α β : Type}

theorem sound_text (tag : Nat) (name : String) (get : α → String) (set : α → String → α) :
    (text tag name get set).Sound where
  isLocal := isLocal_text tag name get set
  size_eq m := by
    show (if get m = "" then _ else _) = (if get m = "" then _ else _ : Bytes).length
    by_cases hempty : get m = ""
    · rw [if_pos hempty, if_pos hempty]
      rfl
    · rw [if_neg hempty, if_neg hempty, List.length_append, length_writeKey,
        length_writeDelimited, length_bytesOfText, Nat.add_assoc]
      rfl

theorem length_writeInt32 (tag : Nat) (n : Int32) :
    (writeInt32 tag n).length = sizeInt32 tag n := by
  rw [writeInt32, List.length_append, length_writeKey, length_writeVarint]
  rfl

theorem sound_int32 (tag : Nat) (name : String) (get : α → Int32) (set : α → Int32 → α) :
    (int32 tag name get set).Sound where
  isLocal := isLocal_int32 tag name get set
  size_eq m := by
    show (if get m = 0 then _ else _) = (if get m = 0 then _ else _ : Bytes).length
    by_cases hzero : get m = 0
    · rw [if_pos hzero, if_pos hzero]
      rfl
    · rw [if_neg hzero, if_neg hzero, length_writeInt32]

theorem sound_optionalInt32 (tag : Nat) (name : String) (get : α → Option Int32)
    (set : α → Int32 → α) : (optionalInt32 tag name get set).Sound where
  isLocal := isLocal_optionalInt32 tag name get set
  size_eq m := by
    show (get m).elim _ _ = ((get m).elim _ _ : Bytes).length
    cases get m with
    | none => rfl
    | some n => exact (length_writeInt32 tag n).symm

theorem sound_flag (tag : Nat) (name : String) (get : α → Bool) (set : α → Bool → α) :
    (flag tag name get set).Sound where
  isLocal := isLocal_flag tag name get set
  size_eq m := by
    show (if get m then _ else _) = (if get m then _ else _ : Bytes).length
    cases get m with
    | false => rfl
    | true =>
        show _ = (writeKey tag .varint ++ [1]).length
        rw [List.length_append, length_writeKey]
        rfl

end Field

/-- Of a text, the key and the length take eleven bytes at most. -/
theorem Field.size_text_le {α : Type} {tag : Nat} {name : String} {get : α → String}
    {set : α → String → α} {m : α} (htag : tag < 2 ^ 4)
    (hm : (get m).utf8ByteSize < 2 ^ 63) :
    (text tag name get set).size m ≤ (get m).utf8ByteSize + 11 := by
  have hkey : varintSize (8 * tag + 2) ≤ 1 := varintSize_le Nat.one_pos (by omega)
  have hlen : varintSize (get m).utf8ByteSize ≤ 10 := varintSize_le (by decide) (by omega)
  show (if get m = "" then _ else _) ≤ _
  split
  · exact Nat.zero_le _
  · omega

theorem Field.size_int32_le {α : Type} {tag : Nat} {name : String} {get : α → Int32}
    {set : α → Int32 → α} (m : α) (htag : tag < 2 ^ 4) : (int32 tag name get set).size m ≤ 11 := by
  have hkey : varintSize (8 * tag) ≤ 1 := varintSize_le Nat.one_pos (by omega)
  have hvalue : varintSize (varintOfInt32 (get m)) ≤ 10 := by
    have hlt := varintOfInt32_lt (get m)
    exact varintSize_le (by decide) (by omega)
  show (if get m = 0 then _ else sizeInt32 tag (get m)) ≤ _
  unfold sizeInt32
  split <;> omega

theorem Schema.Sound.isLocal {α : Type} {s : Schema α} (hs : s.Sound) : s.IsLocal :=
  fun f hf => (hs.fields f hf).isLocal

/-- The size is the length of the encoding. -/
theorem Schema.Sound.size_eq {α : Type} {s : Schema α} (hs : s.Sound) (m : α) :
    s.size m = (s.encode m).length := by
  have hsizes (fs : List (Field α)) (hfs : ∀ f ∈ fs, f ∈ s.fields) :
      fs.foldr (fun f n => f.size m + n) 0 = (fs.flatMap (·.write m)).length := by
    induction fs with
    | nil => rfl
    | cons f fs ih =>
        have hf := (hs.fields f (hfs f List.mem_cons_self)).size_eq m
        have hrest := ih fun g hg => hfs g (List.mem_cons_of_mem f hg)
        rw [List.foldr_cons, List.flatMap_cons, List.length_append, hf, hrest]
  exact hsizes s.fields fun f hf => hf

theorem Field.sound_nested {α β : Type} {inner : Schema β} (hinner : inner.Sound) (tag : Nat)
    (name : String) (get : α → Option β) (set : α → β → α) :
    (nested tag name inner get set).Sound where
  isLocal := isLocal_nested hinner.isLocal get set
  size_eq m := by
    show (get m).elim _ _ = ((get m).elim _ _ : Bytes).length
    cases get m with
    | none => rfl
    | some v =>
        show _ = (writeKey tag .lengthDelimited ++ writeDelimited (inner.encode v)).length
        rw [List.length_append, length_writeKey, length_writeDelimited, ← hinner.size_eq,
          ← Nat.add_assoc]
        rfl

/-! ## What a field's encoding does to a message -/

/-- What `f` writes of `b`, read into `a`, gives the last argument,
whatever follows. -/
inductive Field.Takes {α : Type} (f : Field α) (levels : Nat) (b a : α) : α → Prop
  | nothing (hwrite : f.write b = []) : Takes f levels b a a
  | value {a' : α} (w : WireType) (payload : Bytes)
      (hwrite : f.write b = writeKey f.tag w ++ payload)
      (hread : ∀ rest, f.read levels w a (payload ++ rest) = .ok (a', rest)) : Takes f levels b a a'

/-- What the fields write of `b`, one after the other, takes the first
message to the second. -/
inductive TakesAll {α : Type} (levels : Nat) (b : α) : List (Field α) → α → α → Prop
  | nil {a : α} : TakesAll levels b [] a a
  | cons {f : Field α} {fs : List (Field α)} {a a' a'' : α} (hf : f.Takes levels b a a')
      (hfs : TakesAll levels b fs a' a'') : TakesAll levels b (f :: fs) a a''

/-- The later value, unless it is the default. -/
def overlay {α : Type} [DecidableEq α] (default a b : α) : α := if b = default then a else b

theorem overlay_default {α : Type} [DecidableEq α] (default b : α) :
    overlay default default b = b := by
  unfold overlay
  by_cases hb : b = default
  · rw [if_pos hb, hb]
  · rw [if_neg hb]

namespace Field

variable {α β : Type} {tag : Nat} {name : String} {levels : Nat} {a b : α}

theorem takes_text {get : α → String} {set : α → String → α} (hset : ∀ m, set m (get m) = m)
    (hb : (get b).utf8ByteSize < 2 ^ 64) :
    (text tag name get set).Takes levels b a (set a (overlay "" (get a) (get b))) := by
  unfold overlay
  by_cases hempty : get b = ""
  · rw [if_pos hempty, hset]
    exact .nothing (if_pos hempty)
  · rw [if_neg hempty]
    apply Takes.value .lengthDelimited (writeDelimited (bytesOfText (get b))) (if_neg hempty)
    intro rest
    have hread : readText (writeDelimited (bytesOfText (get b)) ++ rest) = .ok (get b, rest) := by
      unfold readText
      rw [readDelimited_writeDelimited rest (by rw [length_bytesOfText]; exact hb)]
      simp only [textOfBytes?_bytesOfText]
    show readScalar .lengthDelimited readText set .lengthDelimited a _ = _
    unfold readScalar
    rw [hread]
    rfl

theorem readScalar_readInt32 (set : α → Int32 → α) (n : Int32) (rest : Bytes) :
    readScalar .varint readInt32 set .varint a (writeVarint (varintOfInt32 n) ++ rest) =
      .ok (set a n, rest) := by
  have hread : readInt32 (writeVarint (varintOfInt32 n) ++ rest) = .ok (n, rest) := by
    unfold readInt32
    rw [readVarint_writeVarint rest (varintOfInt32_lt n)]
    show Except.ok (int32OfVarint (varintOfInt32 n), rest) = _
    rw [int32OfVarint_varintOfInt32]
  unfold readScalar
  rw [hread]
  rfl

theorem takes_int32 {get : α → Int32} {set : α → Int32 → α} (hset : ∀ m, set m (get m) = m) :
    (int32 tag name get set).Takes levels b a (set a (overlay 0 (get a) (get b))) := by
  unfold overlay
  by_cases hzero : get b = 0
  · rw [if_pos hzero, hset]
    exact .nothing (if_pos hzero)
  · rw [if_neg hzero]
    exact .value .varint (writeVarint (varintOfInt32 (get b))) (if_neg hzero)
      (readScalar_readInt32 set (get b))

theorem takes_flag {get : α → Bool} {set : α → Bool → α} (hset : ∀ m, set m (get m) = m) :
    (flag tag name get set).Takes levels b a (set a (overlay false (get a) (get b))) := by
  cases hb : get b with
  | false =>
      show Takes _ levels b a (set a (get a))
      rw [hset]
      exact .nothing (if_neg (by rw [hb]; exact Bool.false_ne_true))
  | true =>
      apply Takes.value .varint [1] (if_pos hb)
      intro rest
      show readScalar .varint readFlag set .varint a ([1] ++ rest) = .ok (set a true, rest)
      rfl

/-- The reader sets a number; `put` sets or takes it away. -/
theorem takes_optionalInt32 {get : α → Option Int32} {set : α → Int32 → α}
    (put : α → Option Int32 → α) (hset : ∀ m v, set m v = put m (some v))
    (hput : ∀ m, put m (get m) = m) :
    (optionalInt32 tag name get set).Takes levels b a (put a ((get b).or (get a))) := by
  have hwrite : (optionalInt32 tag name get set).write b = (get b).elim [] (writeInt32 tag) := rfl
  cases hb : get b with
  | none =>
      rw [hb] at hwrite
      rw [Option.none_or, hput]
      exact .nothing hwrite
  | some n =>
      rw [hb] at hwrite
      rw [Option.some_or, ← hset]
      exact .value .varint (writeVarint (varintOfInt32 n)) hwrite (readScalar_readInt32 set n)

end Field

/-! ## What the encoding of a message does to another -/

namespace Schema

variable {α : Type} {s : Schema α} {levels stop : Nat} {a a' b : α}

/-- What is written of `b`, read into `a`, gives `a'`. -/
def Takes (s : Schema α) (levels : Nat) (b a a' : α) : Prop := TakesAll levels b s.fields a a'

/-- A tag finds its own field, since no two are equal. -/
theorem Sound.find?_tag (hs : s.Sound) {f : Field α} (hf : f ∈ s.fields) :
    s.fields.find? (·.tag == f.tag) = some f := by
  have hnodup := hs.tags_nodup
  revert hf hnodup
  induction s.fields with
  | nil =>
      intro hf
      cases hf
  | cons g fs ih =>
      intro hf hnodup
      rw [List.map_cons, List.nodup_cons] at hnodup
      rcases List.mem_cons.1 hf with rfl | hmem
      · rw [List.find?_cons_of_pos (by simp)]
      · have hne : g.tag ≠ f.tag := fun heq => hnodup.1 (heq ▸ List.mem_map_of_mem hmem)
        rw [List.find?_cons_of_neg (by simpa using hne)]
        exact ih hmem hnodup.2

/-- A field that has been written is read with its key, whatever follows. -/
theorem readField_value (hs : s.Sound) {f : Field α} (hf : f ∈ s.fields) {w : WireType}
    {payload : Bytes} (hwrite : f.write b = writeKey f.tag w ++ payload)
    (hread : ∀ rest, f.read levels w a (payload ++ rest) = .ok (a', rest)) (rest : Bytes) :
    s.readField levels a (f.write b ++ rest) = .ok (a', rest) := by
  obtain ⟨hpos, hlt⟩ := hs.tags_fit f.tag (List.mem_map_of_mem hf)
  unfold readField
  rw [hwrite, List.append_assoc, readKey_writeKey w (payload ++ rest) hpos hlt]
  simp only [hs.find?_tag hf, hread rest]
  rfl

/-- One field: its bytes are read away, or there are none. -/
theorem readFields_takes (hs : s.Sound) {f : Field α} (hf : f ∈ s.fields)
    (h : f.Takes levels b a a') {rest : Bytes} (hstop : stop ≤ rest.length) :
    s.readFields levels stop (f.write b ++ rest).length a (f.write b ++ rest) =
      s.readFields levels stop rest.length a' rest := by
  cases h with
  | nothing hwrite => rw [hwrite, List.nil_append]
  | value w payload hwrite hread =>
      have hkey := length_writeKey_pos f.tag w
      rw [readFields_of_gt hs.isLocal, readField_value hs hf hwrite hread rest]
      rw [hwrite]
      simp only [List.length_append]
      omega

/-- The induction is on the fields that are still to be read. -/
theorem readFields_takesAll (hs : s.Sound) {fs : List (Field α)} (hfs : ∀ f ∈ fs, f ∈ s.fields)
    (h : TakesAll levels b fs a a') {rest : Bytes} (hstop : stop ≤ rest.length) :
    s.readFields levels stop (fs.flatMap (·.write b) ++ rest).length a
        (fs.flatMap (·.write b) ++ rest) =
      s.readFields levels stop rest.length a' rest := by
  induction h with
  | nil => rfl
  | cons hf htail ih =>
      rename_i f fs a a₁ a₂
      rw [List.flatMap_cons, List.append_assoc,
        readFields_takes hs (hfs f List.mem_cons_self) hf
          (by rw [List.length_append]; omega)]
      exact ih fun g hg => hfs g (List.mem_cons_of_mem f hg)

/-- Reading the encoding of `b`, and nothing behind it. -/
theorem readFields_encode (hs : s.Sound) (h : s.Takes levels b a a') (rest : Bytes) :
    s.readFields levels rest.length (s.encode b ++ rest).length a (s.encode b ++ rest) =
      .ok (a', rest) := by
  unfold encode
  rw [readFields_takesAll hs (fun f hf => hf) h (Nat.le_refl _), readFields_of_le (Nat.le_refl _)]

theorem merge_encode (hs : s.Sound) (h : s.Takes maxLevels b a a') :
    s.merge a (s.encode b) = .ok a' := by
  have hread := readFields_encode hs h []
  rw [List.append_nil] at hread
  unfold merge mergeWithin
  rw [List.length_nil] at hread
  rw [hread]
  rfl

end Schema

/-! ## Nested messages -/

namespace Field

variable {α β : Type} {tag : Nat} {name : String} {inner : Schema β} {levels : Nat} {a b : α}

theorem readNested_writeDelimited {u v v' : β} (hinner : inner.Sound)
    (hlen : (inner.encode v).length < 2 ^ 64) (h : inner.Takes levels v u v') (rest : Bytes) :
    readNested inner (levels + 1) .lengthDelimited u (writeDelimited (inner.encode v) ++ rest) =
      .ok (v', rest) := by
  have hcontents : readContents inner levels (inner.encode v).length u (inner.encode v ++ rest) =
      .ok (v', rest) := by
    have hsum : (inner.encode v ++ rest).length = (inner.encode v).length + rest.length :=
      List.length_append
    apply readContents_eq_ok.2
    refine ⟨by omega, ?_, by omega⟩
    rw [show (inner.encode v ++ rest).length - (inner.encode v).length = rest.length by omega]
    exact Schema.readFields_encode hinner h rest
  rw [readNested_eq, writeDelimited, List.append_assoc, readVarint_writeVarint _ hlen]
  exact hcontents

/-- A nested message is read into the one there already is, or else
into the empty one. -/
theorem takes_nested {get : α → Option β} {set : α → β → α} (put : α → Option β → α)
    (hset : ∀ m v, set m v = put m (some v)) (hput : ∀ m, put m (get m) = m)
    (hinner : inner.Sound) (hlen : ∀ v, get b = some v → (inner.encode v).length < 2 ^ 64)
    {join : β → β → β} (hempty : ∀ v, join inner.empty v = v)
    (hjoin : ∀ u v, get b = some v → inner.Takes levels v u (join u v)) :
    (nested tag name inner get set).Takes (levels + 1) b a
      (put a (Option.merge join (get a) (get b))) := by
  have hwrite : (nested tag name inner get set).write b = (get b).elim [] fun v =>
      writeKey tag .lengthDelimited ++ writeDelimited (inner.encode v) := rfl
  cases hb : get b with
  | none =>
      rw [hb] at hwrite
      rw [Option.merge_none_right, hput]
      exact .nothing hwrite
  | some v =>
      rw [hb] at hwrite
      have hmerge : Option.merge join (get a) (some v) =
          some (join ((get a).getD inner.empty) v) := by
        cases get a with
        | none => exact congrArg some (hempty v).symm
        | some u => rfl
      rw [hmerge, ← hset]
      apply Takes.value .lengthDelimited (writeDelimited (inner.encode v)) hwrite
      intro rest
      show (readNested inner (levels + 1) .lengthDelimited _ _).map _ = _
      rw [readNested_writeDelimited hinner (hlen v hb) (hjoin _ v hb)]
      rfl

end Field

end DistLock.Wire
