import DistLock.Proofs.Wire.Roundtrip

/-!
# Encodings that are cut off

The encoding of a message is read field by field, and a reader that finds
the bytes of one field complete leaves nothing of them. So what there is of
a field that is cut inside cannot be read: if it could, it would be read in
the same way with the missing bytes behind it, and those would be left over
(`readField_cut_inside`). A cut is therefore at the end of a field, or makes
the bytes unreadable (`readFields_of_isPrefix`).
-/

namespace DistLock.Wire

namespace Schema

variable {α : Type} {s : Schema α} {levels : Nat} {a a' b : α}

/-- The bytes of the first `k` fields of a message. -/
def head (s : Schema α) (k : Nat) (m : α) : Bytes := (s.fields.take k).flatMap (·.write m)

/-- Beyond the last field there is nothing more to write. -/
theorem head_of_le {k : Nat} {m : α} (h : s.fields.length ≤ k) : s.head k m = s.encode m := by
  unfold head encode
  rw [List.take_of_length_le h]

theorem readField_cut_inside (hs : s.Sound) {f : Field α} (hf : f ∈ s.fields)
    (h : f.Takes levels b a a') {p q : Bytes} (hwrite : f.write b = p ++ q) (hp : p ≠ [])
    (hq : q ≠ []) : ∃ e, s.readField levels a p = .error e := by
  cases h with
  | nothing hnone =>
      rw [hnone] at hwrite
      exact absurd (List.append_eq_nil_iff.1 hwrite.symm).1 hp
  | value w payload hkey hread =>
      have hwhole : s.readField levels a (f.write b ++ []) = .ok (a', []) :=
        readField_value hs hf hkey hread []
      rw [List.append_nil, hwrite] at hwhole
      cases hcut : s.readField levels a p with
      | error e => exact ⟨e, rfl⟩
      | ok r =>
          obtain ⟨m, rest⟩ := r
          have hlonger := (readField_append hs.isLocal q hcut).1
          rw [hwhole] at hlonger
          have hleft : rest ++ q = [] := by
            injection hlonger with hpair
            exact (Prod.mk.inj hpair).2.symm
          exact absurd (List.append_eq_nil_iff.1 hleft).2 hq

/-- The induction is on the fields that are still to be read; the cut is in
the first of them or behind it. -/
theorem readFields_of_isPrefix (hs : s.Sound) {fs : List (Field α)} (hfs : ∀ f ∈ fs, f ∈ s.fields)
    (h : TakesAll levels b fs a a') {p : Bytes} (hp : p <+: fs.flatMap (·.write b)) :
    (∃ k, p = (fs.take k).flatMap (·.write b)) ∨
      ∃ e, s.readFields levels 0 p.length a p = .error e := by
  induction h generalizing p with
  | nil =>
      left
      exact ⟨0, List.prefix_nil.1 hp⟩
  | cons hf htail ih =>
      rename_i f fs a a₁ a₂
      have hmem : f ∈ s.fields := hfs f List.mem_cons_self
      rw [List.flatMap_cons] at hp
      by_cases hlen : p.length < (f.write b).length
      · have hinside : p <+: f.write b :=
          List.prefix_of_prefix_length_le hp (List.prefix_append _ _) (Nat.le_of_lt hlen)
        by_cases hempty : p = []
        · left
          exact ⟨0, hempty⟩
        · right
          obtain ⟨q, hq⟩ := hinside
          have hmissing : q ≠ [] := by
            intro hnil
            rw [hnil, List.append_nil] at hq
            rw [hq] at hlen
            exact Nat.lt_irrefl _ hlen
          obtain ⟨e, he⟩ := readField_cut_inside hs hmem hf hq.symm hempty hmissing
          refine ⟨e, ?_⟩
          rw [readFields_of_gt hs.isLocal (List.length_pos_iff.2 hempty), he]
      · obtain ⟨p', rfl⟩ : f.write b <+: p :=
          List.prefix_of_prefix_length_le (List.prefix_append _ _) hp (Nat.le_of_not_lt hlen)
        have hrest : p' <+: fs.flatMap (·.write b) := (List.prefix_append_right_inj _).1 hp
        rcases ih (fun g hg => hfs g (List.mem_cons_of_mem f hg)) hrest with ⟨k, hk⟩ | ⟨e, he⟩
        · left
          refine ⟨k + 1, ?_⟩
          rw [hk, List.take_succ_cons, List.flatMap_cons]
        · right
          refine ⟨e, ?_⟩
          rw [readFields_takes hs hmem hf (Nat.zero_le _)]
          exact he

/-- A part of an encoding that can be read is one of its heads. -/
theorem head_of_decode (hs : s.Sound) (h : s.Takes maxLevels b s.empty a') {p : Bytes}
    (hp : p <+: s.encode b) {m : α} (hdecode : s.decode p = .ok m) : ∃ k, p = s.head k b := by
  rcases readFields_of_isPrefix hs (fun f hf => hf) h hp with hhead | ⟨e, he⟩
  · exact hhead
  · unfold decode merge mergeWithin at hdecode
    rw [he] at hdecode
    cases hdecode

end Schema

end DistLock.Wire
