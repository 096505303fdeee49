import DistLock.Error
import DistLock.Proofs.Decimal.Spelling

/-!
# What decisions read like

A decision of the service is told by its text (`ClientError.eq_of_message`):
the ones with an error of their own have different texts, and the others
begin differently and hold their code and the message of the service, with a
comma between them that no number has.
-/

namespace DistLock

/-- What is in front of a character that is not in it. -/
theorem takeWhile_bne_append {c : Char} {front rest : List Char} (h : c ∉ front) :
    (front ++ c :: rest).takeWhile (· != c) = front := by
  have hall : ∀ a ∈ front, (a != c) = true := fun a ha => by
    simp only [bne_iff_ne, ne_eq]
    rintro rfl
    exact h ha
  rw [List.takeWhile_append_of_pos hall]
  simp

namespace ClientError

variable {e e' : ClientError}

/-- The decisions with an error of their own. -/
def ownDecisions : List ClientError :=
  [.lockDoesNotExist, .invalidLockKey, .lockWaitTimeout, .notLocked,
    .lockDoesNotExistOrInvalidKey, .lockSizeMismatch, .invalidLockSize]

theorem own_or_server (h : e.isServerDecision = true) :
    e ∈ ownDecisions ∨ ∃ code text, e = .server code text := by
  cases e with
  | server code text => exact .inr ⟨code, text, rfl⟩
  | lockDoesNotExist | invalidLockKey | lockWaitTimeout | notLocked
  | lockDoesNotExistOrInvalidKey | lockSizeMismatch | invalidLockSize =>
      left
      simp [ownDecisions]
  | _ => cases h

theorem message_own_injective : ∀ e ∈ ownDecisions, ∀ e' ∈ ownDecisions,
    e.message = e'.message → e = e' := by
  decide

theorem toList_message_server (code : Int32) (text : String) :
    (message (.server code text)).toList = "server returned error: code=".toList ++
      ((toString code.toInt).toList ++ ',' :: (" message=".toList ++ text.toList)) := by
  have hcomma : ", message=".toList = ',' :: " message=".toList := by decide
  have hmessage : message (.server code text) = "server returned error: code=" ++
    toString code.toInt ++ ", message=" ++ text := rfl
  rw [hmessage]
  simp only [String.toList_append, List.append_assoc, hcomma, List.cons_append]

theorem message_own_ne_server (code : Int32) (text : String) :
    ∀ e ∈ ownDecisions, e.message ≠ message (.server code text) := by
  intro e he h
  have hfront : ∀ e ∈ ownDecisions, e.message.toList.head? ≠ some 's' := by decide
  apply hfront e he
  rw [h, toList_message_server]
  rfl

theorem message_server_injective {code code' : Int32} {text text' : String}
    (h : message (.server code text) = message (.server code' text')) :
    code = code' ∧ text = text' := by
  have htexts := congrArg String.toList h
  rw [toList_message_server, toList_message_server, List.append_cancel_left_eq] at htexts
  -- the text of a number has no comma, so it ends where the comma stands
  have hcomma (n : Int) : ',' ∉ (toString n).toList := fun hc =>
    (Decimal.mem_toString_int hc).elim (by decide) (by decide)
  have hnumbers : toString code.toInt = toString code'.toInt := by
    have hfronts := congrArg (List.takeWhile (· != ',')) htexts
    rwa [takeWhile_bne_append (hcomma _), takeWhile_bne_append (hcomma _),
      String.toList_inj] at hfronts
  rw [hnumbers, List.append_cancel_left_eq, List.cons_inj_right, List.append_cancel_left_eq,
    String.toList_inj] at htexts
  exact ⟨Int32.toInt_inj.1 (Decimal.toString_int_injective hnumbers), htexts⟩

/-- Two decisions of the service that read alike are the same. -/
theorem eq_of_message (he : e.isServerDecision = true) (he' : e'.isServerDecision = true)
    (h : e.message = e'.message) : e = e' := by
  rcases own_or_server he with hown | ⟨code, text, rfl⟩
  · rcases own_or_server he' with hown' | ⟨code', text', rfl⟩
    · exact message_own_injective e hown e' hown' h
    · exact absurd h (message_own_ne_server code' text' e hown)
  · rcases own_or_server he' with hown' | ⟨code', text', rfl⟩
    · exact absurd h.symm (message_own_ne_server code text e' hown')
    · obtain ⟨rfl, rfl⟩ := message_server_injective h
      rfl

end ClientError

end DistLock
