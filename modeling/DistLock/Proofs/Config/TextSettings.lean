import DistLock.Proofs.Config.Precedence
import DistLock.Proofs.Decimal.Spelling

/-!
# Texts from the environment

The value of a variable is guessed, and a setting that is to be a text is
made one again. What it gets is `Environment.textOf`: a truth value in lower
case, a number as it is written, and any other text as it stands. So a text
survives as long as it is not another spelling of one of these
(`textOf_eq_iff`). A load whose variables set texts succeeds as it would
with other texts, and its fields are these (`load_text_settings`).
-/

namespace DistLock

theorem Text.isBlank_of_isDigit {c : Char} (h : c.isDigit = true) : isBlank c = false := by
  rw [← Bool.not_eq_true]
  intro hblank
  obtain ⟨hlow, hhigh⟩ := Decimal.toNat_of_isDigit h
  have hnumber := toNat_of_isBlank hblank
  omega

theorem Text.isBlankText_eq_false {s : String} {c : Char} (hc : c ∈ s.toList)
    (h : isBlank c = false) : isBlankText s = false := by
  rw [isBlankText, List.all_eq_false]
  exact ⟨c, hc, by rw [h]; exact Bool.false_ne_true⟩

theorem Binary64.text_finite (negative : Bool) (m : Nat) (e : Int) :
    (Binary64.finite negative m e).text = if m = 0 then sign negative ++ "0"
      else sign negative ++
        Decimal.positional (Decimal.shortest m e).1 (Decimal.shortest m e).2 := rfl

/-- The text of a floating-point number has a digit, or is a word. -/
theorem Binary64.exists_not_blank (x : Binary64) :
    ∃ c ∈ x.text.toList, Text.isBlank c = false := by
  cases x with
  | nan => exact ⟨'N', by decide, rfl⟩
  | infinite negative => exact ⟨'i', by cases negative <;> decide, rfl⟩
  | finite negative m e =>
      rw [text_finite]
      split
      · exact ⟨'0', by cases negative <;> decide, rfl⟩
      · obtain ⟨c, hc, hdigit⟩ := Decimal.exists_isDigit_positional (Decimal.shortest m e).1
          (Decimal.shortest m e).2
        refine ⟨c, ?_, Text.isBlank_of_isDigit hdigit⟩
        rw [String.toList_append]
        exact List.mem_append_right _ hc

namespace Environment

open Decimal

/-- The whole number of 64 bits that a text reads as. -/
def integer? (s : String) : Option Int :=
  (readInt? s).filter fun n => minInt64 ≤ n ∧ n ≤ maxInt64

/-- The text that a variable gives to a setting that is to be one. -/
def textOf (s : String) : String :=
  if Text.lower s = "true" then "true"
  else if Text.lower s = "false" then "false"
  else
    match integer? s, readBinary64? s with
    | some n, _ => toString n
    | none, some x => x.text
    | none, none => s

theorem toText_guess (s : String) : (guess s).toText = .ok (textOf s) := by
  unfold guess textOf integer?
  dsimp only
  split
  · rfl
  · split
    · rfl
    · cases (readInt? s).filter fun n => minInt64 ≤ n ∧ n ≤ maxInt64 with
      | some n => rfl
      | none => cases readBinary64? s <;> rfl

theorem toOptionalText_guess (s : String) :
    (guess s).toOptionalText = .ok (some (textOf s)) := by
  have htext := toText_guess s
  unfold SettingValue.toOptionalText
  split
  · rename_i hunit
    rw [hunit] at htext
    cases htext
  · rw [htext]
    rfl

/-- The text is one of the words for truth values, in any case. -/
def IsTruth (s : String) : Prop := Text.lower s = "true" ∨ Text.lower s = "false"

instance (s : String) : Decidable (IsTruth s) := inferInstanceAs (Decidable (_ ∨ _))

/-- Words for truth values are put in lower case, and read as no number. -/
theorem textOf_of_isTruth {s : String} (h : IsTruth s) :
    textOf s = Text.lower s ∧ integer? (Text.lower s) = none ∧
      readBinary64? (Text.lower s) = none := by
  unfold textOf
  rcases h with h | h <;> rw [h] <;> exact ⟨rfl, rfl, rfl⟩

/-- Any other text is that of the number it reads as, or stays. -/
theorem textOf_of_not_isTruth {s : String} (h : ¬ IsTruth s) :
    textOf s = match integer? s, readBinary64? s with
      | some n, _ => toString n
      | none, some x => x.text
      | none, none => s := by
  unfold textOf
  rw [if_neg fun hs => h (.inl hs), if_neg fun hs => h (.inr hs)]

theorem readInt?_of_integer? {s : String} {n : Int} (h : integer? s = some n) :
    readInt? s = some n := (Option.filter_eq_some_iff.1 h).1

/-- The text is no other spelling of a truth value or of a number. -/
structure Survives (s : String) : Prop where
  truth : IsTruth s → Text.lower s = s
  integer : integer? s ≠ none → IsPlainInteger s
  number : integer? s = none → ∀ x, readBinary64? s = some x → x.text = s

/-- A text is kept as it is exactly if it is no other spelling of
something else. -/
theorem textOf_eq_iff (s : String) : textOf s = s ↔ Survives s := by
  by_cases htruth : IsTruth s
  · obtain ⟨htext, hinteger, hnumber⟩ := textOf_of_isTruth htruth
    rw [htext]
    constructor
    · intro hs
      rw [hs] at hinteger hnumber
      refine ⟨fun _ => hs, fun hne => absurd hinteger hne, ?_⟩
      intro _ x hx
      rw [hnumber] at hx
      cases hx
    · intro hs
      exact hs.truth htruth
  · rw [textOf_of_not_isTruth htruth]
    cases hinteger : integer? s with
    | some n =>
        have hspelling := toString_eq_iff (readInt?_of_integer? hinteger)
        have hsome : integer? s ≠ none := by
          rw [hinteger]
          exact Option.some_ne_none n
        constructor
        · intro hs
          exact ⟨fun h => absurd h htruth, fun _ => hspelling.1 hs, fun h => absurd h hsome⟩
        · intro hs
          exact hspelling.2 (hs.integer hsome)
    | none =>
        cases hnumber : readBinary64? s with
        | some x =>
            constructor
            · intro hs
              refine ⟨fun h => absurd h htruth, fun h => absurd hinteger h, ?_⟩
              intro _ y hy
              obtain rfl := Option.some.inj (hnumber.symm.trans hy)
              exact hs
            · intro hs
              exact hs.number hinteger x hnumber
        | none =>
            refine iff_of_true rfl ⟨fun h => absurd h htruth, fun h => absurd hinteger h, ?_⟩
            intro _ x hx
            rw [hnumber] at hx
            cases hx

/-- What is not blank does not become so. -/
theorem isBlankText_textOf {s : String} (h : Text.isBlankText s = false) :
    Text.isBlankText (textOf s) = false := by
  by_cases htruth : IsTruth s
  · rw [(textOf_of_isTruth htruth).1]
    rcases htruth with h | h <;> rw [h] <;> rfl
  · rw [textOf_of_not_isTruth htruth]
    cases integer? s with
    | some n =>
        obtain ⟨c, hc, hdigit⟩ := exists_isDigit_toString_int n
        exact Text.isBlankText_eq_false hc (Text.isBlank_of_isDigit hdigit)
    | none =>
        cases readBinary64? s with
        | some x =>
            obtain ⟨c, hc, hblank⟩ := x.exists_not_blank
            exact Text.isBlankText_eq_false hc hblank
        | none => exact h

end Environment

/-! ## Fields -/

/-- A setting that is found is converted by its value. -/
theorem Setting.convert_found {α : Type} {convert : SettingValue → Except Mismatch α}
    {v : SettingValue} {a : α} (h : convert v = .ok a) {origin key : String} :
    (Setting.found origin v).convert key convert = .ok a := by
  have hvalue : (Setting.found origin v).value = v := by
    unfold Setting.found
    split <;> rfl
  rw [Setting.convert, hvalue, h]
  rfl

namespace ConfigField

/-- The field is a text. -/
def isText : ConfigField → Bool
  | address | password | caFile | tlsCert | tlsKey => true
  | useTls | noAutoRefresh | maxRetries | retryIntervalSeconds => false

/-- The text in a field, if it has one. -/
def text? : ConfigField → ClientConfig → Option String
  | address, c => some c.address
  | password, c => c.password
  | caFile, c => c.caFile
  | tlsCert, c => c.tlsCert
  | tlsKey, c => c.tlsKey
  | useTls, _ | noAutoRefresh, _ | maxRetries, _ | retryIntervalSeconds, _ => none

variable {f : ConfigField} {c c' : ClientConfig} {env : List (String × String)} {s : String}

theorem text?_congr (h : f.get c = f.get c') : f.text? c = f.text? c' := by
  cases f with
  | address => exact congrArg some h
  | password | caFile | tlsCert | tlsKey => exact h
  | useTls | noAutoRefresh | maxRetries | retryIntervalSeconds => rfl

/-- The variable of a text sets it, and cannot fail to. -/
theorem value_of_isText (origin : String) (entries : List (String × SettingValue))
    (hf : f.isText = true) (hs : Environment.value? env f.key = some s) :
    ∃ v, f.value env origin entries = .ok v ∧
      ∀ c, f.get c = v → f.text? c = some (Environment.textOf s) := by
  have heffective : Setting.effective? env origin entries f.key =
      some (.found Environment.origin (Environment.guess s)) := by
    unfold Setting.effective?
    rw [hs]
  unfold ConfigField.value
  rw [heffective]
  have htext := Environment.toText_guess s
  have hoptional := Environment.toOptionalText_guess s
  cases f with
  | address => exact ⟨_, Setting.convert_found htext, fun c hc => congrArg some hc⟩
  | password | caFile | tlsCert | tlsKey =>
      exact ⟨_, Setting.convert_found hoptional, fun c hc => hc⟩
  | useTls | noAutoRefresh | maxRetries | retryIntervalSeconds => cases hf

end ConfigField

namespace ClientConfig

variable {d : Directory} {env : List (String × String)} {file : Option String} {origin : String}
  {entries : List (String × SettingValue)} {c c' : ClientConfig}

theorem validate_eq_ok : c.validate = .ok () ↔
    Text.isBlankText c.address = false ∧ c.tlsCert.isSome = c.tlsKey.isSome := by
  unfold validate
  cases hblank : Text.isBlankText c.address with
  | true => simp
  | false =>
      by_cases hpair : c.tlsCert.isSome = c.tlsKey.isSome
      · simp [hpair]
      · simp [hpair]

/-- The field is a text, and the environment sets it. -/
def SetsText (env : List (String × String)) (f : ConfigField) (s : String) : Prop :=
  f.isText = true ∧ Environment.value? env f.key = some s

/-- **Texts from the environment.** Take a valid configuration, and
variables that set some of the texts that it has, the address not to a blank
one; let all other settings be as in the configuration. Then the load
succeeds. The other fields are as in the configuration, and each of these
texts is what its variable comes to, which is the variable's own text
exactly if that is no other spelling of a truth value or of a number. -/
theorem load_text_settings (h : Reads d env file origin entries) (hvalid : c'.validate = .ok ())
    (hset : ∀ f s, SetsText env f s → f.text? c' ≠ none)
    (hothers : ∀ f : ConfigField, (∀ s, ¬ SetsText env f s) →
      f.value env origin entries = .ok (f.get c'))
    (haddress : ∀ s, SetsText env .address s → Text.isBlankText s = false) :
    ∃ c, load d env file = .ok c ∧
      (∀ f s, SetsText env f s →
        f.text? c = some (Environment.textOf s) ∧
        (f.text? c = some s ↔ Environment.Survives s)) ∧
      ∀ f : ConfigField, (∀ s, ¬ SetsText env f s) → f.get c = f.get c' := by
  have hvalues : ∀ f : ConfigField, ∃ v, f.value env origin entries = .ok v := by
    intro f
    by_cases hf : ∃ s, SetsText env f s
    · obtain ⟨s, htext, hs⟩ := hf
      obtain ⟨v, hv, -⟩ := ConfigField.value_of_isText origin entries htext hs
      exact ⟨v, hv⟩
    · exact ⟨_, hothers f fun s hs => hf ⟨s, hs⟩⟩
  obtain ⟨c, hc, hload⟩ := load_of_values h hvalues
  have htexts : ∀ f s, SetsText env f s → f.text? c = some (Environment.textOf s) := by
    rintro f s ⟨htext, hs⟩
    obtain ⟨v, hv, hfield⟩ := ConfigField.value_of_isText origin entries htext hs
    exact hfield c (Except.ok.inj ((hc f).symm.trans hv))
  have hsame : ∀ f : ConfigField, (∀ s, ¬ SetsText env f s) → f.get c = f.get c' :=
    fun f hf => Except.ok.inj ((hc f).symm.trans (hothers f hf))
  -- what is set has a text in both configurations, so they have the same texts
  have hpresent : ∀ f : ConfigField, (f.text? c).isSome = (f.text? c').isSome := by
    intro f
    by_cases hf : ∃ s, SetsText env f s
    · obtain ⟨s, hs⟩ := hf
      rw [htexts f s hs, Option.isSome_some, eq_comm, Option.isSome_iff_ne_none]
      exact hset f s hs
    · rw [ConfigField.text?_congr (hsame f fun s hs => hf ⟨s, hs⟩)]
  obtain ⟨hblank, hpair⟩ := validate_eq_ok.1 hvalid
  have hvalid' : c.validate = .ok () := by
    rw [validate_eq_ok]
    constructor
    · by_cases hf : ∃ s, SetsText env .address s
      · obtain ⟨s, hs⟩ := hf
        have haddr : c.address = Environment.textOf s := Option.some.inj (htexts .address s hs)
        rw [haddr]
        exact Environment.isBlankText_textOf (haddress s hs)
      · have haddr : c.address = c'.address := hsame .address fun s hs => hf ⟨s, hs⟩
        rw [haddr]
        exact hblank
    · exact ((hpresent .tlsCert).trans hpair).trans (hpresent .tlsKey).symm
  refine ⟨c, ?_, ?_, hsame⟩
  · rw [hload, hvalid']
    rfl
  · intro f s hs
    have htext := htexts f s hs
    refine ⟨htext, ?_⟩
    rw [htext, Option.some_inj, Environment.textOf_eq_iff]

/-- A password of digits and letters is kept. -/
theorem load_text_settings_password :
    ∃ c, load { name := "etc" } [("LDLM_PASSWORD", "0x2a")] none = .ok c ∧
      c.password = some "0x2a" ∧ c.address = "localhost:3144" := by
  have hreads : Reads { name := "etc" } [("LDLM_PASSWORD", "0x2a")] none "" [] := by
    refine ⟨.nothing "", by simp, ?_⟩
    intro v hv key hname
    obtain rfl := List.mem_singleton.1 hv
    have hkey := Environment.key?_eq_some.2 hname
    have hplain : Environment.key? "LDLM_PASSWORD" = some "password" := by decide +kernel
    obtain rfl := Option.some.inj (hkey.symm.trans hplain)
    exact .of_isNameChar (by decide)
  have hvariables : ∀ f : ConfigField, Environment.value? [("LDLM_PASSWORD", "0x2a")] f.key =
      if f = .password then some "0x2a" else none := by
    intro f
    cases f <;> decide +kernel
  have hsets : ∀ f s, SetsText [("LDLM_PASSWORD", "0x2a")] f s → f = .password := by
    rintro f s ⟨-, hs⟩
    rw [hvariables] at hs
    exact Classical.byContradiction fun hne => by simp [hne] at hs
  have hpassword : SetsText [("LDLM_PASSWORD", "0x2a")] .password "0x2a" :=
    ⟨rfl, by rw [hvariables]; rfl⟩
  have hothers : ∀ f : ConfigField, (∀ s, ¬ SetsText [("LDLM_PASSWORD", "0x2a")] f s) →
      f.value [("LDLM_PASSWORD", "0x2a")] "" [] = .ok (f.get { password := some "secret" }) := by
    intro f hf
    have hne : f ≠ .password := fun h => hf "0x2a" (h ▸ hpassword)
    unfold ConfigField.value Setting.effective?
    rw [hvariables, if_neg hne]
    cases f with
    | password => exact absurd rfl hne
    | _ => rfl
  obtain ⟨c, hload, htexts, hsame⟩ := load_text_settings hreads (by decide +kernel)
    (fun f s hs => hsets f s hs ▸ Option.some_ne_none _) hothers
    (fun s hs => by cases hsets _ _ hs)
  refine ⟨c, hload, ?_, ?_⟩
  · exact (htexts .password "0x2a" hpassword).2.2
      ((Environment.textOf_eq_iff _).1 (by decide +kernel))
  · exact hsame .address fun s hs => by cases hsets _ _ hs

/-- Passwords that read as something else are spelled anew. -/
theorem load_text_respelled :
    load { name := "etc" } [("LDLM_PASSWORD", "007")] none = .ok { password := some "7" } ∧
    load { name := "etc" } [("LDLM_PASSWORD", "True")] none = .ok { password := some "true" } ∧
    Environment.textOf "1e3" = "1000" :=
  ⟨rfl, rfl, by decide +kernel⟩

end ClientConfig

end DistLock
