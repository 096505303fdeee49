import DistLock.Proofs.Wire.Roundtrip

/-!
# Unknown fields

What a well-formed field is, whatever its tag (`IsField`): a key, and a value
in the layout that the key names. A number is spelled in any way that has ten
bytes at most (`IsNumber`), also in a longer way than `writeVarint` does. A
group holds fields, one level further in, up to the end tag that closes it.

A well-formed field is passed over, just its own bytes (`IsField.passes`),
so one whose tag a table does not list does nothing to a message: not
between the fields of the message (`mergeWithin_unknown`), and not between
the contents of a nested one (`readContents_unknown`).
-/

namespace DistLock.Wire

/-! ## Numbers and keys -/

/-- The bytes spell the number in groups of seven bits, lowest first, all
but the last marked. -/
inductive Spells : Nat → Bytes → Prop
  | last {b : UInt8} : b < 128 → Spells b.toNat [b]
  | more {b : UInt8} {n : Nat} {bs : Bytes} : 128 ≤ b → Spells n bs →
      Spells (b.toNat - 128 + 128 * n) (b :: bs)

/-- A number of 64 bits in ten bytes at most. -/
structure IsNumber (n : Nat) (bs : Bytes) : Prop where
  spells : Spells n bs
  length_le : bs.length ≤ 10
  lt : n < 2 ^ 64

/-- A key for a tag of 29 bits. -/
structure IsKey (tag : Nat) (w : WireType) (bs : Bytes) : Prop where
  pos : 0 < tag
  lt : tag < 2 ^ 29
  number : IsNumber (8 * tag + w.code) bs

theorem Spells.length_pos {n : Nat} {bs : Bytes} (h : Spells n bs) : 0 < bs.length := by
  cases h <;> simp

/-- The last of ten bytes has room for one bit. -/
theorem readVarintWithin_spells {left n : Nat} {bs : Bytes} (rest : Bytes) (h : Spells n bs)
    (hlen : bs.length ≤ left + 1) (hn : n < 2 * 128 ^ left) :
    readVarintWithin (left + 1) (bs ++ rest) = .ok (n, rest) := by
  induction h generalizing left with
  | @last b hlast =>
      rw [List.singleton_append, readVarintWithin, if_pos hlast, if_neg ?_]
      rintro ⟨rfl, hlarge⟩
      have := UInt8.lt_iff_toNat_lt.1 hlarge
      rw [Nat.pow_zero] at hn
      exact absurd this (by show ¬ 1 < b.toNat; omega)
  | @more b n bs hmore hspells ih =>
      have hpos := hspells.length_pos
      rw [List.length_cons] at hlen
      obtain ⟨left, rfl⟩ : ∃ l, left = l + 1 := ⟨left - 1, by omega⟩
      have hquotient : n < 2 * 128 ^ left := by
        rw [Nat.pow_succ] at hn
        omega
      rw [List.cons_append, readVarintWithin, if_neg (UInt8.not_lt.2 hmore),
        ih (by omega) hquotient]

theorem IsNumber.read {n : Nat} {bs : Bytes} (h : IsNumber n bs) (rest : Bytes) :
    readVarint (bs ++ rest) = .ok (n, rest) := by
  apply readVarintWithin_spells rest h.spells h.length_le
  rw [show 2 * 128 ^ 9 = 2 ^ 64 by decide]
  exact h.lt

theorem IsKey.read {tag : Nat} {w : WireType} {bs : Bytes} (h : IsKey tag w bs) (rest : Bytes) :
    readKey (bs ++ rest) = .ok (tag, w, rest) :=
  readKey_eq_ok.2 ⟨8 * tag + w.code, h.number.read rest, keyOfNumber_code w h.pos h.lt⟩

theorem spells_writeVarint (n : Nat) : Spells n (writeVarint n) := by
  induction n using writeVarint.induct with
  | case1 n h =>
      have hbyte := toNat_ofNat_byte (n := n) (by omega)
      rw [writeVarint_of_lt h]
      have hlast : UInt8.ofNat n < 128 :=
        UInt8.lt_iff_toNat_lt.2 (by rw [hbyte]; exact h)
      have hspells := Spells.last hlast
      rwa [hbyte] at hspells
  | case2 n h ih =>
      have hbyte := toNat_ofNat_byte (n := n % 128 + 128) (by omega)
      rw [writeVarint_of_ge (by omega)]
      have hmore : 128 ≤ UInt8.ofNat (n % 128 + 128) := by
        rw [UInt8.le_iff_toNat_le, hbyte]
        show 128 ≤ n % 128 + 128
        omega
      have hspells := Spells.more hmore ih
      rwa [hbyte, show n % 128 + 128 - 128 + 128 * (n / 128) = n by omega] at hspells

theorem isNumber_writeVarint {n : Nat} (h : n < 2 ^ 64) : IsNumber n (writeVarint n) where
  spells := spells_writeVarint n
  length_le := by
    rw [length_writeVarint]
    exact varintSize_le (by decide) (by omega)
  lt := h

/-! ## Fields -/

/-- A field, with as many levels for it and the groups in it as a
reader has left. -/
inductive IsField : (levels tag : Nat) → Bytes → Prop
  | varint {levels tag n : Nat} {key value : Bytes} : IsKey tag .varint key → IsNumber n value →
      IsField (levels + 1) tag (key ++ value)
  | sixtyFourBit {levels tag : Nat} {key value : Bytes} : IsKey tag .sixtyFourBit key →
      value.length = 8 → IsField (levels + 1) tag (key ++ value)
  | thirtyTwoBit {levels tag : Nat} {key value : Bytes} : IsKey tag .thirtyTwoBit key →
      value.length = 4 → IsField (levels + 1) tag (key ++ value)
  | lengthDelimited {levels tag : Nat} {key length content : Bytes} :
      IsKey tag .lengthDelimited key → IsNumber content.length length →
      IsField (levels + 1) tag (key ++ (length ++ content))
  | group {levels tag : Nat} {opening closing : Bytes} (fields : List (Nat × Bytes)) :
      IsKey tag .startGroup opening → (∀ f ∈ fields, IsField levels f.1 f.2) →
      IsKey tag .endGroup closing →
      IsField (levels + 1) tag (opening ++ (fields.flatMap (·.2) ++ closing))

/-- A key, and behind it a value that `pass` passes over, whatever follows. -/
inductive Passes (pass : Nat → WireType → Bytes → Except Fault Bytes) (tag : Nat) (bs : Bytes) :
    Prop
  | value {w : WireType} {key value : Bytes} : bs = key ++ value → IsKey tag w key →
      w ≠ .endGroup → (∀ rest, pass tag w (value ++ rest) = .ok rest) → Passes pass tag bs

/-- The induction is on the fields of the group; each takes a byte or more,
and so a round. -/
theorem skipGroup_fields {pass : Nat → WireType → Bytes → Except Fault Bytes} {tag rounds : Nat}
    {fields : List (Nat × Bytes)} {closing : Bytes} (rest : Bytes)
    (hfields : ∀ f ∈ fields, Passes pass f.1 f.2) (hclose : IsKey tag .endGroup closing)
    (hrounds : (fields.flatMap (·.2)).length < rounds) :
    skipGroup pass tag rounds (fields.flatMap (·.2) ++ (closing ++ rest)) = .ok rest := by
  induction fields generalizing rounds with
  | nil =>
      obtain ⟨rounds, rfl⟩ : ∃ r, rounds = r + 1 := ⟨rounds - 1, by omega⟩
      rw [List.flatMap_nil, List.nil_append, skipGroup, hclose.read]
      simp only [if_true]
  | cons f fields ih =>
      obtain ⟨hfirst, hfields⟩ := List.forall_mem_cons.1 hfields
      cases hfirst with
      | @value w key value hbs hkey hend hpass =>
          have hpos := hkey.number.spells.length_pos
          rw [List.flatMap_cons, hbs, List.length_append, List.length_append] at hrounds
          obtain ⟨rounds, rfl⟩ : ∃ r, rounds = r + 1 := ⟨rounds - 1, by omega⟩
          rw [List.flatMap_cons, hbs, List.append_assoc, List.append_assoc, skipGroup, hkey.read]
          simp only [hpass]
          exact ih hfields (by omega)

/-- A field is passed over, just its own bytes. -/
theorem IsField.passes {levels tag : Nat} {bs : Bytes} (h : IsField levels tag bs) :
    Passes (skip levels) tag bs := by
  induction h with
  | varint hkey hvalue =>
      apply Passes.value rfl hkey (by decide)
      intro rest
      rw [skip, hvalue.read]
      rfl
  | sixtyFourBit hkey hlen | thirtyTwoBit hkey hlen =>
      apply Passes.value rfl hkey (by decide)
      intro rest
      rw [skip, skipBytes, List.length_append, if_neg (by omega), ← hlen, List.drop_left]
  | @lengthDelimited levels tag key length content hkey hlength =>
      apply Passes.value rfl hkey (by decide)
      intro rest
      rw [skip, List.append_assoc, hlength.read]
      simp only [skipBytes]
      rw [List.length_append, if_neg (by omega), List.drop_left]
  | @group levels tag opening closing fields hopen _ hclose ih =>
      apply Passes.value rfl hopen (by decide)
      intro rest
      rw [skip, List.append_assoc]
      apply skipGroup_fields rest ih hclose
      simp only [List.length_append]
      omega

theorem IsField.length_pos {levels tag : Nat} {bs : Bytes} (h : IsField levels tag bs) :
    0 < bs.length := by
  cases h.passes with
  | value hbs hkey _ _ =>
      have hpos := hkey.number.spells.length_pos
      rw [hbs, List.length_append]
      omega

/-! ## Messages -/

namespace Schema

variable {α : Type} {s : Schema α} {levels stop tag : Nat} {m : α} {u rest : Bytes}

/-- A field whose tag no field of the table has leaves the message as it is. -/
theorem readField_unknown (hu : IsField levels tag u) (htag : tag ∉ s.fields.map (·.tag)) :
    s.readField levels m (u ++ rest) = .ok (m, rest) := by
  have hfind : s.fields.find? (·.tag == tag) = none := by
    rw [List.find?_eq_none]
    intro f hf heq
    exact htag (List.mem_map.2 ⟨f, hf, by simpa using heq⟩)
  cases hu.passes with
  | value hbs hkey _ hpass =>
      unfold readField
      rw [hbs, List.append_assoc, hkey.read]
      simp only [hfind, hpass]

theorem readFields_unknown (hs : s.IsLocal) (hu : IsField levels tag u)
    (htag : tag ∉ s.fields.map (·.tag)) (hstop : stop ≤ rest.length) :
    s.readFields levels stop (u ++ rest).length m (u ++ rest) =
      s.readFields levels stop rest.length m rest := by
  have hpos := hu.length_pos
  rw [readFields_of_gt hs (by rw [List.length_append]; omega), readField_unknown hu htag]

theorem mergeWithin_unknown (hs : s.IsLocal) (hu : IsField levels tag u)
    (htag : tag ∉ s.fields.map (·.tag)) (y : Bytes) :
    s.mergeWithin levels m (u ++ y) = s.mergeWithin levels m y := by
  unfold mergeWithin
  rw [readFields_unknown hs hu htag (Nat.zero_le _)]

end Schema

namespace Field

variable {β : Type} {inner : Schema β} {levels tag : Nat} {m m' : β} {p q u y : Bytes}

/-- The contents of a nested message have to end where what is
behind it begins. -/
theorem readContents_append (inner : Schema β) (levels : Nat) (m : β) (p y : Bytes) :
    readContents inner levels p.length m (p ++ y) =
      match inner.readFields levels y.length (p ++ y).length m (p ++ y) with
      | .error e => .error e
      | .ok (m, after) =>
        if after.length = y.length then .ok (m, after)
        else .error { fault := .lengthExceeded } := by
  have hbehind : (p ++ y).length - p.length = y.length := by simp
  rw [← hbehind]
  exact if_neg (by simp)

/-- Contents that can be merged come first, and then the others. -/
theorem readContents_of_merge (hinner : inner.IsLocal)
    (hp : inner.mergeWithin levels m p = .ok m') :
    readContents inner levels (p ++ q).length m (p ++ q ++ y) =
      readContents inner levels q.length m' (q ++ y) := by
  have hfields := (Schema.mergeWithin_eq_ok hinner).1 hp
  rw [readContents_append, readContents_append, List.append_assoc,
    Schema.readFields_append hinner (q ++ y) (by rw [List.length_append]; omega) hfields,
    List.nil_append]

/-- A field that the table does not list, between the contents of a
nested message. -/
theorem readContents_unknown (hinner : inner.IsLocal) (hp : inner.mergeWithin levels m p = .ok m')
    (hu : IsField levels tag u) (htag : tag ∉ inner.fields.map (·.tag)) :
    readContents inner levels (p ++ (u ++ q)).length m (p ++ (u ++ q) ++ y) =
      readContents inner levels (p ++ q).length m (p ++ q ++ y) := by
  rw [readContents_of_merge hinner hp, readContents_of_merge hinner hp, readContents_append,
    readContents_append, List.append_assoc,
    Schema.readFields_unknown hinner hu htag (by rw [List.length_append]; omega)]

end Field

end DistLock.Wire
