import DistLock.Endpoint.Channel

/-!
# What is dialled for an address

An address may bring a scheme of its own (`ownScheme?`); what stands behind
it is the `remainder`. The URI for an address has the scheme that the
address brings, or else the one that the encryption asks for, and behind it
the remainder of the address (`toList_serverUri`). So what is dialled is the
authority at the front of the remainder (`parse?_serverUri`).
-/

namespace DistLock

/-- How a URI of a scheme begins. -/
def Scheme.opening : Scheme → List Char
  | .http => ['h', 't', 't', 'p', ':', '/', '/']
  | .https => ['h', 't', 't', 'p', 's', ':', '/', '/']

/-- The text begins as a URI of the scheme does. -/
def Scheme.Opens (s : Scheme) (text : String) : Prop := s.opening <+: text.toList

instance (s : Scheme) (text : String) : Decidable (s.Opens text) :=
  inferInstanceAs (Decidable (s.opening <+: text.toList))

theorem Scheme.isPrefixOf_opening (s : Scheme) (text : String) :
    s.opening.isPrefixOf text.toList = decide (s.Opens text) := by
  rw [Bool.eq_iff_iff, decide_eq_true_iff, List.isPrefixOf_iff_prefix]
  rfl

theorem Scheme.toList_opening (s : Scheme) : (s.name ++ "://").toList = s.opening := by
  cases s <;> rfl

/-- No text begins in both ways. -/
theorem Scheme.Opens.unique {s t : Scheme} {text : String} (hs : s.Opens text)
    (ht : t.Opens text) : s = t := by
  have h := List.prefix_or_prefix_of_prefix hs ht
  cases s <;> cases t <;> first | rfl | exact absurd h (by decide)

namespace Channel

variable {address : String}

/-- The scheme that an address brings. -/
def ownScheme? (address : String) : Option Scheme :=
  if Scheme.http.Opens address then some .http
  else if Scheme.https.Opens address then some .https
  else none

/-- The scheme that is dialled. -/
def schemeOf (address : String) (tls : Bool) : Scheme :=
  (ownScheme? address).getD (if tls then .https else .http)

/-- What an address has behind its scheme. -/
def remainder (address : String) : List Char :=
  match ownScheme? address with
  | none => address.toList
  | some s => address.toList.drop s.opening.length

theorem ownScheme?_eq_some {s : Scheme} : ownScheme? address = some s ↔ s.Opens address := by
  unfold ownScheme?
  constructor
  · intro h
    split at h
    · cases h
      assumption
    · split at h
      · cases h
        assumption
      · cases h
  · intro h
    split
    · rename_i hhttp
      rw [hhttp.unique h]
    · rename_i hhttp
      cases s with
      | http => exact absurd h hhttp
      | https => exact if_pos h

theorem toList_of_ownScheme? {s : Scheme} (h : ownScheme? address = some s) :
    address.toList = s.opening ++ remainder address := by
  obtain ⟨rest, hrest⟩ := ownScheme?_eq_some.1 h
  simp only [remainder, h]
  rw [← hrest, List.drop_left]

theorem hasScheme_eq (address : String) : hasScheme address = (ownScheme? address).isSome := by
  show (Scheme.http.opening.isPrefixOf _ || Scheme.https.opening.isPrefixOf _) = _
  rw [Scheme.isPrefixOf_opening, Scheme.isPrefixOf_opening]
  unfold ownScheme?
  by_cases hhttp : Scheme.http.Opens address <;> by_cases hhttps : Scheme.https.Opens address <;>
    simp [hhttp, hhttps]

theorem toList_serverUri (address : String) (tls : Bool) :
    (serverUri address tls).toList = (schemeOf address tls).opening ++ remainder address := by
  unfold serverUri schemeOf
  rw [hasScheme_eq]
  cases h : ownScheme? address with
  | some s => exact toList_of_ownScheme? h
  | none =>
      simp only [remainder, h, Option.isSome_none, Option.getD_none, Bool.false_eq_true, if_false]
      rw [String.toList_append, Scheme.toList_opening]

end Channel

theorem Uri.readScheme?_opening (s : Scheme) (cs : List Char) :
    readScheme? (s.opening ++ cs) = some (s, cs) := by
  cases s <;> rfl

/-- The URI for an address that can be dialled: the authority is what the
remainder of the address begins with. -/
theorem Channel.parse?_serverUri {address : String} {tls : Bool} {uri : Uri}
    (h : Uri.parse? (serverUri address tls) = some uri) :
    uri.scheme = schemeOf address tls ∧
      uri.authority.toList = (remainder address).takeWhile (!Authority.isEnd ·) ∧
      Authority.isValid uri.authority.toList = true := by
  unfold Uri.parse? at h
  rw [toList_serverUri, Uri.readScheme?_opening] at h
  split at h
  · cases h
  · simp only at h
    split at h
    · cases h
    · rename_i hvalid
      rw [Option.map_eq_some_iff] at h
      obtain ⟨path, -, rfl⟩ := h
      refine ⟨rfl, String.toList_ofList, ?_⟩
      rw [String.toList_ofList]
      simpa using hvalid

end DistLock
