import DistLock.Proofs.Endpoint.Address
import Mathlib.Data.List.TakeWhile

/-!
# The name that the certificate is for

The name of the server is cut out of the address: everything before the last
colon, once the schemes are taken away. The URI that is dialled is read by a
grammar, and its host is cut out of the same text in another way.
`serverHost_eq_host_iff` says when the two are the same: when nothing stands
behind the host, or a colon and then no other.
-/

namespace DistLock

/-! ## The last colon -/

/-- A text names a host: it is the host and has no colon, or it has one
behind the host and then no other. -/
def Names (host text : List Char) : Prop :=
  (text = host ∧ ':' ∉ host) ∨ ∃ port, text = host ++ ':' :: port ∧ ':' ∉ port

theorem forall_bne_of_not_mem {c : Char} {cs : List Char} (h : c ∉ cs) :
    ∀ x ∈ cs, (x != c) = true := by
  intro x hx
  rw [bne_iff_ne]
  rintro rfl
  exact h hx

namespace Channel

theorem beforeLastColon_of_not_mem {cs : List Char} (h : ':' ∉ cs) : beforeLastColon cs = cs := by
  have hdrop : cs.reverse.dropWhile (· != ':') = [] := by
    rw [List.dropWhile_eq_nil_iff]
    exact forall_bne_of_not_mem fun hc => h (List.mem_reverse.1 hc)
  rw [beforeLastColon, hdrop]

theorem beforeLastColon_append {host port : List Char} (h : ':' ∉ port) :
    beforeLastColon (host ++ ':' :: port) = host := by
  have hdrop : (host ++ ':' :: port).reverse.dropWhile (· != ':') = ':' :: host.reverse := by
    have hport : ':' ∉ port.reverse := fun hc => h (List.mem_reverse.1 hc)
    rw [List.reverse_append, List.reverse_cons, List.append_assoc,
      List.dropWhile_append_of_pos (forall_bne_of_not_mem hport)]
    rfl
  rw [beforeLastColon, hdrop]
  exact List.reverse_reverse host

theorem beforeLastColon_eq_iff {cs host : List Char} :
    beforeLastColon cs = host ↔ Names host cs := by
  constructor
  · rintro rfl
    by_cases hcolon : ':' ∈ cs
    · -- The last colon is the first one from behind.
      obtain ⟨behind, before, hsplit, hbehind⟩ :=
        List.eq_append_cons_of_mem (List.mem_reverse.2 hcolon)
      have hcs : cs = before.reverse ++ ':' :: behind.reverse := by
        rw [← List.reverse_reverse cs, hsplit]
        simp
      have hport : ':' ∉ behind.reverse := fun h => hbehind (List.mem_reverse.1 h)
      rw [hcs, beforeLastColon_append hport]
      exact .inr ⟨_, rfl, hport⟩
    · rw [beforeLastColon_of_not_mem hcolon]
      exact .inl ⟨rfl, hcolon⟩
  · rintro (⟨rfl, hhost⟩ | ⟨port, rfl, hport⟩)
    · exact beforeLastColon_of_not_mem hhost
    · exact beforeLastColon_append hport

end Channel

/-! ## Hosts of authorities -/

namespace Authority

/-- A bracket that was opened stays open to the scan, and only a closing
bracket closes it. -/
theorem Scan.next?_brackets {s t : Scan} {c : Char} (h : s.next? c = some t) :
    (s.opened = true → t.opened = true) ∧ (c ≠ ']' → t.closed = s.closed) := by
  unfold Scan.next? at h
  grind

theorem foldlM_next?_brackets {cs : List Char} {s t : Scan} (h : cs.foldlM Scan.next? s = some t) :
    (s.opened = true → t.opened = true) ∧ (']' ∉ cs → t.closed = s.closed) := by
  induction cs generalizing s with
  | nil =>
      cases h
      exact ⟨id, fun _ => rfl⟩
  | cons c cs ih =>
      rw [List.foldlM_cons, Option.bind_eq_bind, Option.bind_eq_some_iff] at h
      obtain ⟨mid, hstep, hrest⟩ := h
      obtain ⟨hopened, hclosed⟩ := Scan.next?_brackets hstep
      obtain ⟨ihopened, ihclosed⟩ := ih hrest
      refine ⟨fun ho => ihopened (hopened ho), ?_⟩
      intro hmem
      rw [List.mem_cons, not_or] at hmem
      rw [ihclosed hmem.2, hclosed (Ne.symm hmem.1)]

/-- An opened bracket is closed. -/
theorem mem_of_isValid {cs : List Char} (h : isValid ('[' :: cs) = true) : ']' ∈ cs := by
  unfold isValid at h
  rw [Bool.and_eq_true, Option.any_eq_true] at h
  obtain ⟨-, s, hs, hcomplete⟩ := h
  rw [List.foldlM_cons] at hs
  obtain ⟨hopened, hclosed⟩ := foldlM_next?_brackets (s := { opened := true }) hs
  apply Classical.byContradiction
  intro hmem
  rw [Scan.isComplete, hopened rfl, hclosed hmem] at hcomplete
  cases hcomplete

/-- What stands before the first of a character, with the character itself. -/
theorem takeWhile_append_prefix {c : Char} {cs : List Char} (h : c ∈ cs) :
    cs.takeWhile (· != c) ++ [c] <+: cs := by
  obtain ⟨before, behind, rfl, hbefore⟩ := List.eq_append_cons_of_mem h
  have hcut : (before ++ c :: behind).takeWhile (· != c) = before := by
    rw [List.takeWhile_append_of_pos (forall_bne_of_not_mem hbefore)]
    simp
  rw [hcut]
  exact ⟨behind, by simp⟩

/-- Without user information, the authority begins with the host. -/
theorem host_prefix {authority : String} (h : isValid authority.toList = true)
    (huser : '@' ∉ authority.toList) : (host authority).toList <+: authority.toList := by
  have hall : (authority.toList.reverse.takeWhile (· != '@')).reverse = authority.toList := by
    have hreverse : '@' ∉ authority.toList.reverse := fun hc => huser (List.mem_reverse.1 hc)
    rw [List.takeWhile_eq_self_iff.2 (forall_bne_of_not_mem hreverse), List.reverse_reverse]
  unfold host
  rw [hall]
  simp only
  split
  · rename_i cs hcs
    rw [hcs] at h ⊢
    rw [String.toList_ofList]
    exact takeWhile_append_prefix (List.mem_cons_of_mem _ (mem_of_isValid h))
  · rw [String.toList_ofList]
    exact List.takeWhile_prefix _

end Authority

/-! ## Schemes taken away -/

namespace Channel

variable {address : String} {word cs : List Char}

/-- What the name of the server is cut out of. -/
def stripped (address : String) : List Char :=
  let cs := dropRepeated Scheme.http.opening address.toList.length address.toList
  dropRepeated Scheme.https.opening cs.length cs

theorem serverHost_eq (address : String) :
    serverHost address = String.ofList (beforeLastColon (stripped address)) := rfl

theorem dropRepeated_eq_self (h : ¬ word <+: cs) (rounds : Nat) :
    dropRepeated word rounds cs = cs := by
  cases rounds with
  | zero => rfl
  | succ rounds =>
      rw [dropRepeated, if_neg]
      rwa [List.isPrefixOf_iff_prefix]

theorem dropRepeated_append (h : ¬ word <+: cs) (hword : word ≠ []) :
    dropRepeated word (word ++ cs).length (word ++ cs) = cs := by
  obtain ⟨rounds, hrounds⟩ : ∃ rounds, (word ++ cs).length = rounds + 1 := by
    rw [List.length_append]
    have hpos := List.length_pos_iff.2 hword
    exact ⟨word.length + cs.length - 1, by omega⟩
  have hprefix : word.isPrefixOf (word ++ cs) = true :=
    List.isPrefixOf_iff_prefix.2 (List.prefix_append word cs)
  rw [hrounds, dropRepeated, if_pos hprefix, List.drop_left, dropRepeated_eq_self h]

/-- Where no scheme stands behind the first, that is the only
one taken away. -/
theorem stripped_eq_remainder (h : ∀ s : Scheme, ¬ s.opening <+: remainder address) :
    stripped address = remainder address := by
  unfold stripped
  cases hown : ownScheme? address with
  | none =>
      have hbare : address.toList = remainder address := by
        simp only [remainder, hown]
      rw [hbare, dropRepeated_eq_self (h .http), dropRepeated_eq_self (h .https)]
  | some s =>
      have htext := toList_of_ownScheme? hown
      cases s with
      | http =>
          rw [htext, dropRepeated_append (h .http) (by decide),
            dropRepeated_eq_self (h .https)]
      | https =>
          have hhttp : ¬ Scheme.http.opening <+: address.toList := fun hp => by
            rw [ownScheme?_eq_some.2 hp] at hown
            cases hown
          rw [dropRepeated_eq_self hhttp, htext,
            dropRepeated_append (h .https) (by decide)]

/-! ## The host that is dialled -/

/-- What is dialled without user information has the host in front. -/
theorem host_prefix_remainder {uri : Uri}
    (h : Uri.parse? (serverUri address true) = some uri) (huser : '@' ∉ uri.authority.toList) :
    uri.host.toList <+: remainder address := by
  obtain ⟨-, hauthority, hvalid⟩ := parse?_serverUri h
  have hfront : uri.authority.toList <+: remainder address := by
    rw [hauthority]
    exact List.takeWhile_prefix _
  exact (Authority.host_prefix hvalid huser).trans hfront

theorem names_append {host behind : List Char} :
    Names host (host ++ behind) ↔
      (behind = [] ∧ ':' ∉ host) ∨ ∃ port, behind = ':' :: port ∧ ':' ∉ port := by
  unfold Names
  simp only [List.append_right_eq_self, List.append_cancel_left_eq]

/-- **The certificate's name.** Let the URI for an address be one that can
be dialled. The name that the certificate is checked for is the host that
is dialled exactly if the address, without its schemes, names that host.
Where it has no user information and no second scheme, that is a question
of what it has behind the host: nothing, if the host has no colons, or a
colon and then no other. -/
theorem serverHost_eq_host_iff {uri : Uri} (h : Uri.parse? (serverUri address true) = some uri) :
    (serverHost address = uri.host ↔ Names uri.host.toList (stripped address)) ∧
    ('@' ∉ uri.authority.toList → (∀ s : Scheme, ¬ s.opening <+: remainder address) →
      ∃ behind, remainder address = uri.host.toList ++ behind ∧
        (serverHost address = uri.host ↔
          (behind = [] ∧ ':' ∉ uri.host.toList) ∨
            ∃ port, behind = ':' :: port ∧ ':' ∉ port)) := by
  have hnames : serverHost address = uri.host ↔ Names uri.host.toList (stripped address) := by
    rw [serverHost_eq, ← beforeLastColon_eq_iff, ← String.toList_inj, String.toList_ofList]
  refine ⟨hnames, ?_⟩
  intro huser honce
  obtain ⟨behind, hbehind⟩ := host_prefix_remainder h huser
  refine ⟨behind, hbehind.symm, ?_⟩
  rw [hnames, stripped_eq_remainder honce, ← hbehind, names_append]

theorem serverHost_eq_host_port :
    ∃ uri, Uri.parse? (serverUri "ldlm.internal:3144" true) = some uri ∧
      uri.host = "ldlm.internal" ∧ serverHost "ldlm.internal:3144" = uri.host := by
  have h : Uri.parse? (serverUri "ldlm.internal:3144" true) =
      some { scheme := .https, authority := "ldlm.internal:3144" } := rfl
  refine ⟨_, h, rfl, ?_⟩
  exact (serverHost_eq_host_iff h).1.2 (.inr ⟨"3144".toList, rfl, by decide⟩)

/-- Neither a path without a port, nor an address in brackets without one,
nor user information is told from the name of the server: the channel
cannot be made, or accepts the certificate of another host than the one
that is dialled. -/
theorem serverHost_apart :
    (∃ uri, Uri.parse? (serverUri "https://ldlm.internal/" true) = some uri ∧
      uri.host = "ldlm.internal" ∧ serverHost "https://ldlm.internal/" = "ldlm.internal/" ∧
      make { address := "https://ldlm.internal/", useTls := true } { name := "conf" } =
        .error (.channel .unusableTls)) ∧
    (∃ uri, Uri.parse? (serverUri "[::1]" true) = some uri ∧
      uri.host = "[::1]" ∧ serverHost "[::1]" = "[:") ∧
    ∃ channel tls,
      make { address := "ldlm.internal:x@lock.example", useTls := true } { name := "conf" } =
        .ok channel ∧
      channel.uri.host = "lock.example" ∧ channel.tls = some tls ∧
      tls.serverName = "ldlm.internal" := by
  refine ⟨⟨_, rfl, rfl, rfl, rfl⟩, ⟨_, rfl, rfl, rfl⟩, ?_⟩
  exact ⟨_, _, rfl, rfl, rfl, rfl⟩

end Channel

end DistLock
