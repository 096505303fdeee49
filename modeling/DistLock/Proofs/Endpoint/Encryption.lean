import DistLock.Grpc.Call
import DistLock.Proofs.Config.Fields
import DistLock.Proofs.Endpoint.Address

/-!
# Which channels are encrypted

The scheme that is dialled comes from the text of the address first, and
from the configuration only where the address has none; the settings of the
encryption come from the configuration alone. The two agree on all channels
that carry calls (`encryption_of_make`), unless the address asks for a plain
connection and the configuration for an encrypted one.
-/

namespace DistLock

namespace Channel

variable {config : ClientConfig} {d : Directory} {channel : Channel}

/-- The settings of the encryption, if there is to be any. -/
def encryptionOf (config : ClientConfig) (d : Directory) :
    Except ClientError (Option TlsSettings) :=
  if config.usesTls then some <$> tlsSettings config d else pure none

/-- What a channel is made of, and what has been checked before. -/
theorem make_eq_ok :
    make config d = .ok channel ↔
      config.validate = .ok () ∧
      Uri.parse? (serverUri config.address config.usesTls) = some channel.uri ∧
      encryptionOf config d = .ok channel.tls ∧
      authorizationOf config.password = .ok channel.authorization := by
  have hmake : make config d = (do
      config.validate
      (Uri.parse? (serverUri config.address config.usesTls)).elim (throw (.channel .invalidUri))
        fun uri => do
          let tls ← encryptionOf config d
          let authorization ← authorizationOf config.password
          pure { uri, tls, authorization }) := by
    unfold make encryptionOf
    cases Uri.parse? (serverUri config.address config.usesTls) <;> cases config.usesTls <;> rfl
  rw [hmake, bind_eq_ok]
  constructor
  · rintro ⟨_, hvalid, h⟩
    cases huri : Uri.parse? (serverUri config.address config.usesTls) with
    | none =>
        rw [huri] at h
        cases h
    | some uri =>
        simp only [huri, Option.elim_some, bind_eq_ok] at h
        obtain ⟨tls, htls, authorization, hauthorization, h⟩ := h
        cases h
        exact ⟨hvalid, rfl, htls, hauthorization⟩
  · rintro ⟨hvalid, huri, htls, hauthorization⟩
    refine ⟨(), hvalid, ?_⟩
    simp only [huri, Option.elim_some, bind_eq_ok]
    exact ⟨_, htls, _, hauthorization, rfl⟩

/-- There are settings for the encryption exactly if the
configuration asks for it. -/
theorem isSome_of_encryptionOf {tls : Option TlsSettings}
    (h : encryptionOf config d = .ok tls) : tls.isSome = config.usesTls := by
  unfold encryptionOf at h
  cases hu : config.usesTls with
  | false =>
      rw [hu] at h
      cases h
      rfl
  | true =>
      rw [hu, if_pos rfl] at h
      cases hs : tlsSettings config d with
      | error e =>
          rw [hs] at h
          cases h
      | ok settings =>
          rw [hs] at h
          cases h
          rfl

/-- The scheme is the one of the address, and only then the one of
the configuration. -/
theorem scheme_of_make (h : make config d = .ok channel) :
    channel.uri.scheme = schemeOf config.address config.usesTls := by
  obtain ⟨-, huri, -, -⟩ := make_eq_ok.1 h
  exact (parse?_serverUri huri).1

theorem schemeOf_eq_https {address : String} {tls : Bool} :
    schemeOf address tls = .https ↔
      Scheme.https.Opens address ∨ tls = true ∧ ¬ Scheme.http.Opens address := by
  unfold schemeOf
  cases h : ownScheme? address with
  | some s =>
      have hs : s.Opens address := ownScheme?_eq_some.1 h
      cases s with
      | http =>
          have hhttps : ¬ Scheme.https.Opens address := fun h => by cases hs.unique h
          simp [hs, hhttps]
      | https => simp [hs]
  | none =>
      have hs (s : Scheme) : ¬ s.Opens address := fun hs => by
        rw [ownScheme?_eq_some.2 hs] at h
        cases h
      cases tls <;> simp [hs]

end Channel

/-- Nothing is seen of a call for whose encryption there are no settings. -/
theorem Grpc.Peer.isUsable_of_call {p : Peer} {c : Channel} {r : Request} {seen : HttpRequest}
    (h : (p.call c r).2.1 = some seen) : c.isUsable = true := by
  unfold call at h
  split at h
  · cases h
  · split at h
    · cases h
    · rename_i husable
      simpa using husable

namespace Channel

/-- **Encryption.** Let a configuration that does not ask for encryption on
a plain address make a channel. The channel is encrypted exactly if the
configuration or the address asks for it, and it has settings for its
encryption exactly if the configuration does. So every call that reaches a
server, and the password that goes along, is encrypted exactly if the
configuration asks for it. -/
theorem encryption_of_make {config : ClientConfig} {d : Directory} {channel : Channel}
    (h : make config d = .ok channel)
    (hplain : ¬ (config.usesTls = true ∧ Scheme.http.Opens config.address)) :
    (channel.uri.scheme = .https ↔
      config.usesTls = true ∨ Scheme.https.Opens config.address) ∧
    (channel.tls.isSome = true ↔ config.usesTls = true) ∧
    ∀ (p : Grpc.Peer) (r : Request) (seen : Grpc.HttpRequest),
      (p.call channel r).2.1 = some seen →
        (channel.uri.scheme = .https ↔ config.usesTls = true) := by
  have hscheme : channel.uri.scheme = .https ↔
      config.usesTls = true ∨ Scheme.https.Opens config.address := by
    rw [scheme_of_make h, schemeOf_eq_https]
    constructor
    · rintro (hown | ⟨hu, -⟩)
      · exact .inr hown
      · exact .inl hu
    · rintro (hu | hown)
      · exact .inr ⟨hu, fun hhttp => hplain ⟨hu, hhttp⟩⟩
      · exact .inl hown
  have htls : channel.tls.isSome = true ↔ config.usesTls = true := by
    rw [isSome_of_encryptionOf (make_eq_ok.1 h).2.2.1]
  refine ⟨hscheme, htls, ?_⟩
  intro p r seen hseen
  constructor
  · -- An encrypted channel that carries calls has settings, which only the configuration gives.
    intro hhttps
    have husable := Grpc.Peer.isUsable_of_call hseen
    rw [isUsable, hhttps] at husable
    exact htls.1 (by simpa using husable)
  · intro hu
    exact hscheme.2 (.inl hu)

theorem encryption_of_make_password :
    ∃ config channel,
      make config { name := "conf" } = .ok channel ∧
      ¬ (config.usesTls = true ∧ Scheme.http.Opens config.address) ∧
      config.address = "ldlm.internal:3144" ∧ config.usesTls = true ∧
      channel.uri.scheme = .https ∧ channel.authorization = some (Wire.bytesOfText "s3cret") := by
  have h : make { address := "ldlm.internal:3144", useTls := true, password := some "s3cret" }
      { name := "conf" } =
        .ok { uri := { scheme := .https, authority := "ldlm.internal:3144" }
              tls := some { serverName := "ldlm.internal" }
              authorization := some (Wire.bytesOfText "s3cret") } := rfl
  have hplain : ¬ (true = true ∧ Scheme.http.Opens "ldlm.internal:3144") := by decide
  exact ⟨_, _, h, hplain, rfl, rfl, (encryption_of_make h hplain).1.2 (.inl rfl), rfl⟩

/-- An address with a scheme has its way against the configuration: it is
encrypted where that does not ask for it, and the other way round, and then
the password is sent as it is. -/
theorem scheme_against_configuration :
    (∃ config channel,
      make config { name := "conf" } = .ok channel ∧
      config.address = "https://ldlm.internal:3144" ∧ config.usesTls = false ∧
      channel.uri.scheme = .https) ∧
    ∃ config channel seen,
      make config { name := "conf" } = .ok channel ∧
      config.address = "http://ldlm.internal:3144" ∧ config.usesTls = true ∧
      channel.uri.scheme = .http ∧
      ((Grpc.Peer.serving []).call channel (.unlock { name := "job", key := "key" })).2.1 =
        some seen ∧
      seen.authorization = [Wire.bytesOfText "s3cret"] := by
  constructor
  · exact ⟨{ address := "https://ldlm.internal:3144" }, _, rfl, rfl, rfl, rfl⟩
  · exact ⟨{ address := "http://ldlm.internal:3144", useTls := true, password := some "s3cret" },
      _, _, rfl, rfl, rfl, rfl, rfl, rfl⟩

end Channel

end DistLock
