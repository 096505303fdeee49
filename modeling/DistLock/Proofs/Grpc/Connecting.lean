import DistLock.Endpoint.Channel
import DistLock.Proofs.Wire.Roundtrip

/-!
# Connecting without encryption

A configuration that says nothing of encryption makes a channel out of its
address and its password. It refuses the passwords that have a control
character other than the tab among their bytes (`make_eq_refusal`); the
channel takes along all others with each call, apart from the empty one,
which counts as none (`make_of_sendable`).
-/

namespace DistLock

open Wire

/-! ## Passwords -/

theorem Channel.isHeaderByte_eq_false {b : UInt8} :
    isHeaderByte b = false ↔ b = 0x7F ∨ b < 0x20 ∧ b ≠ 0x09 := by
  simp only [isHeaderByte, Bool.or_eq_false_iff, Bool.and_eq_false_iff, decide_eq_false_iff_not,
    bne_eq_false_iff_eq, beq_eq_false_iff_ne]
  grind

/-- The password has a byte that cannot go along with a call. -/
def Unsendable (password : Option String) : Prop :=
  ∃ p ∈ password, ∃ b ∈ bytesOfText p, b = 0x7F ∨ b < 0x20 ∧ b ≠ 0x09

/-- What is to go along with each call. -/
def credentialsOf : Option String → List Bytes
  | none => []
  | some p => if p = "" then [] else [bytesOfText p]

theorem bytesOfText_eq_nil {s : String} : bytesOfText s = [] ↔ s = "" := by
  rw [← List.length_eq_zero_iff, length_bytesOfText, String.utf8ByteSize_eq_zero_iff]

namespace Channel

variable {password : Option String}

/-- The checks of a password, in their order. -/
theorem authorizationOf_some (p : String) :
    authorizationOf (some p) =
      if p = "" then .ok none
      else if (bytesOfText p).all isHeaderByte then .ok (some (bytesOfText p))
      else .error (.invalidRequest "password contains characters not allowed in metadata") := by
  show (if (bytesOfText p).isEmpty then _ else _) = _
  simp only [List.isEmpty_iff, bytesOfText_eq_nil]
  rfl

theorem authorizationOf_of_unsendable (h : Unsendable password) :
    authorizationOf password =
      .error (.invalidRequest "password contains characters not allowed in metadata") := by
  obtain ⟨p, rfl, b, hb, hbad⟩ := h
  have hne : p ≠ "" := fun h => by
    rw [h] at hb
    cases hb
  have hall : ¬ (bytesOfText p).all isHeaderByte = true := by
    rw [List.all_eq_true]
    exact fun h => Bool.false_ne_true ((isHeaderByte_eq_false.2 hbad).symm.trans (h b hb))
  rw [authorizationOf_some, if_neg hne, if_neg hall]

theorem authorizationOf_of_sendable (h : ¬ Unsendable password) :
    ∃ a, authorizationOf password = .ok a ∧ a.toList = credentialsOf password := by
  cases password with
  | none => exact ⟨none, rfl, rfl⟩
  | some p =>
      have hall : (bytesOfText p).all isHeaderByte = true := by
        rw [List.all_eq_true]
        intro b hb
        cases hbad : isHeaderByte b with
        | true => rfl
        | false => exact absurd ⟨p, rfl, b, hb, isHeaderByte_eq_false.1 hbad⟩ h
      rw [authorizationOf_some, credentialsOf]
      by_cases hp : p = ""
      · exact ⟨none, by rw [if_pos hp], by rw [if_pos hp]; rfl⟩
      · exact ⟨some (bytesOfText p), by rw [if_neg hp, if_pos hall], by rw [if_neg hp]; rfl⟩

end Channel

/-! ## Addresses -/

namespace Authority

theorem toNat_of_isAuthorityChar {c : Char} (h : isAuthorityChar c = true) :
    0x20 < c.toNat ∧ c.toNat < 0x85 := by
  have hupper : c.isUpper = decide ('A'.val ≤ c.val ∧ c.val ≤ 'Z'.val) := rfl
  have hlower : c.isLower = (decide ('a'.val ≤ c.val) && decide (c.val ≤ 'z'.val)) := rfl
  have hdigit : c.isDigit = (decide ('0'.val ≤ c.val) && decide (c.val ≤ '9'.val)) := rfl
  have halphanum : c.isAlphanum = (c.isUpper || c.isLower || c.isDigit) := rfl
  have hnumber : c.toNat = c.val.toNat := rfl
  simp only [isAuthorityChar, halphanum, hupper, hlower, hdigit, Bool.or_eq_true,
    Bool.and_eq_true, decide_eq_true_eq, UInt32.le_iff_toNat_le, Char.reduceVal,
    UInt32.reduceToNat, List.mem_cons, List.not_mem_nil, or_false, ← Char.toNat_inj,
    Char.reduceToNat] at h
  omega

/-- No blank is a character of an authority. -/
theorem next?_of_isBlank {c : Char} (hc : Text.isBlank c = true) (s : Scan) :
    s.next? c = none := by
  have hblank := Text.toNat_of_isBlank hc
  have hpercent : c ≠ '%' := by
    rintro rfl
    exact absurd hc (by decide)
  have hchar : isAuthorityChar c = false := by
    cases h : isAuthorityChar c with
    | false => rfl
    | true =>
        have hn := toNat_of_isAuthorityChar h
        omega
  rw [Scan.next?, if_neg hpercent, hchar]
  rfl

theorem isEnd_of_isBlank {c : Char} (hc : Text.isBlank c = true) : isEnd c = false := by
  cases h : isEnd c with
  | false => rfl
  | true =>
      simp only [isEnd, Bool.or_eq_true, beq_iff_eq] at h
      rcases h with (rfl | rfl) | rfl <;> exact absurd hc (by decide)

/-- There is no authority in front of a blank, or of nothing. -/
theorem isValid_of_blank {cs : List Char} (h : cs.all Text.isBlank = true) :
    isValid (cs.takeWhile (!isEnd ·)) = false := by
  cases cs with
  | nil => rfl
  | cons c cs =>
      have hc : Text.isBlank c = true := (List.all_eq_true.1 h) c List.mem_cons_self
      simp [isValid, isEnd_of_isBlank hc, List.foldlM_cons, next?_of_isBlank hc]

end Authority

theorem Channel.hasScheme_of_blank {address : String} (h : Text.isBlankText address = true) :
    hasScheme address = false := by
  unfold Text.isBlankText at h
  unfold hasScheme
  cases hcs : address.toList with
  | nil => rfl
  | cons c cs =>
      rw [hcs, List.all_cons, Bool.and_eq_true] at h
      have hc : ('h' == c) = false := by
        rw [beq_eq_false_iff_ne]
        rintro rfl
        exact absurd h.1 (by decide)
      have hhttp : "http://".toList = 'h' :: "ttp://".toList := rfl
      have hhttps : "https://".toList = 'h' :: "ttps://".toList := rfl
      rw [hhttp, hhttps, List.isPrefixOf_cons_cons, List.isPrefixOf_cons_cons, hc]
      rfl

/-- A blank address is none. -/
theorem Uri.parse?_of_blank {address : String} (h : Text.isBlankText address = true) :
    parse? (Channel.serverUri address false) = none := by
  have htext : (Channel.serverUri address false).toList = "http://".toList ++ address.toList := by
    rw [Channel.serverUri, Channel.hasScheme_of_blank h, ← String.toList_append]
    rfl
  have hscheme : readScheme? ("http://".toList ++ address.toList) =
      some (.http, address.toList) := rfl
  unfold parse?
  split
  · rfl
  · rw [htext, hscheme]
    simp only [Authority.isValid_of_blank h]
    rfl

/-- The configuration says nothing of encryption, and its address is one
that can be dialled so. -/
structure ClientConfig.Dials (config : ClientConfig) : Prop where
  unencrypted : config.useTls = false
  certless : config.tlsCert = none
  keyless : config.tlsKey = none
  address : ∃ uri, Uri.parse? (Channel.serverUri config.address false) = some uri ∧
    uri.scheme = .http

namespace ClientConfig.Dials

variable {config : ClientConfig}

theorem usesTls (h : config.Dials) : config.usesTls = false := by
  rw [ClientConfig.usesTls, h.unencrypted, h.certless]
  rfl

theorem validate (h : config.Dials) : config.validate = .ok () := by
  obtain ⟨uri, huri, -⟩ := h.address
  have hblank : ¬ Text.isBlankText config.address = true := by
    intro hblank
    rw [Uri.parse?_of_blank hblank] at huri
    cases huri
  rw [ClientConfig.validate, if_neg hblank, h.certless, h.keyless]
  rfl

/-- All that is left to be looked at is the password. -/
theorem make_eq (h : config.Dials) (d : Directory) :
    ∃ uri, uri.scheme = .http ∧
      Channel.make config d = (Channel.authorizationOf config.password).map fun authorization =>
        { uri, authorization } := by
  obtain ⟨uri, huri, hscheme⟩ := h.address
  refine ⟨uri, hscheme, ?_⟩
  simp only [Channel.make, h.validate, h.usesTls, huri]
  cases Channel.authorizationOf config.password <;> rfl

/-- With any other password there is a channel that can carry calls, and
takes it along. -/
theorem make_of_sendable (h : config.Dials) (d : Directory) (hs : ¬ Unsendable config.password) :
    ∃ c, Channel.make config d = .ok c ∧ c.isUsable = true ∧
      c.authorization.toList = credentialsOf config.password := by
  obtain ⟨uri, hscheme, hmake⟩ := h.make_eq d
  obtain ⟨a, ha, hcredentials⟩ := Channel.authorizationOf_of_sendable hs
  refine ⟨{ uri, authorization := a }, ?_, ?_, hcredentials⟩
  · rw [hmake, ha]
    rfl
  · rw [Channel.isUsable, hscheme]
    rfl

theorem make_eq_refusal (h : config.Dials) (d : Directory) :
    Channel.make config d =
        .error (.invalidRequest "password contains characters not allowed in metadata") ↔
      Unsendable config.password := by
  constructor
  · intro hmake
    apply Classical.byContradiction
    intro hs
    obtain ⟨c, hc, -⟩ := h.make_of_sendable d hs
    rw [hmake] at hc
    cases hc
  · intro hs
    obtain ⟨uri, -, hmake⟩ := h.make_eq d
    rw [hmake, Channel.authorizationOf_of_unsendable hs]
    rfl

end ClientConfig.Dials

end DistLock
