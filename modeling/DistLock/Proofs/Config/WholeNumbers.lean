import DistLock.Proofs.Config.JsonText
import DistLock.Proofs.Config.TextSettings
import DistLock.Proofs.Decimal.Rounding

/-!
# Whole numbers from every source

A whole number below `2 ^ 64` can be set by a variable of the environment,
and in a file by a number or by a text. What a source makes of its numeral
is `NumberSource.received` (`toUnsigned_value`): a file keeps the number,
however it is written there. A variable keeps it below `2 ^ 63`; from there
on its value is guessed to be a floating-point number, so what is left is
the nearest one (`received_eq_iff`).

A load that is given the interval between retries so has it, and one that is
given the number of retries has it or fails, as that fits 32 bits
(`load_whole_number`).
-/

namespace DistLock

/-! ## Texts of numbers -/

/-- A digit is its own lower case. -/
theorem Text.lower_toString (n : Nat) : ∃ (d : Fin 10) (cs : List Char),
    Text.lower (toString n) = String.ofList (Nat.digitChar d :: cs) := by
  obtain ⟨d, ds, hn⟩ := Decimal.exists_toDigits n
  have hsigma : ∀ d : Fin 10, Nat.digitChar d ≠ 'Σ' ∧ Nat.digitChar d ≠ 'İ' ∧
      lowerChar (Nat.digitChar d) = Nat.digitChar d := by
    decide
  obtain ⟨hs, hi, hlower⟩ := hsigma d
  refine ⟨d, lowerFrom [Nat.digitChar d] ds, ?_⟩
  rw [Text.lower, Decimal.toList_toString, hn, lowerFrom, if_neg hs, if_neg hi, hlower]
  rfl

/-- In lower case, the text of a number is no word. -/
theorem Text.lower_toString_ne (n : Nat) (word : String)
    (hword : ∀ d : Fin 10, word.toList.head? ≠ some (Nat.digitChar d)) :
    Text.lower (toString n) ≠ word := by
  obtain ⟨d, cs, hlower⟩ := lower_toString n
  rintro rfl
  exact hword d (by rw [hlower, String.toList_ofList]; rfl)

theorem truthOfWord?_toString (n : Nat) :
    SettingValue.truthOfWord? (Text.lower (toString n)) = none := by
  have htrue := Text.lower_toString_ne n "true" (by decide)
  have hon := Text.lower_toString_ne n "on" (by decide)
  have hyes := Text.lower_toString_ne n "yes" (by decide)
  have hfalse := Text.lower_toString_ne n "false" (by decide)
  have hoff := Text.lower_toString_ne n "off" (by decide)
  have hno := Text.lower_toString_ne n "no" (by decide)
  simp only [SettingValue.truthOfWord?, List.mem_cons, List.not_mem_nil, htrue, hon, hyes,
    hfalse, hoff, hno, or_self, if_false]

/-- A variable is a whole number with a sign below `2 ^ 63`, and a
floating-point number from there on. -/
theorem Environment.guess_toString {n : Nat} (hn : n < unsignedLimit) :
    guess (toString n) = if n < 2 ^ 63 then .integer n else .number (.ofNat n) := by
  have htrue := Text.lower_toString_ne n "true" (by decide)
  have hfalse := Text.lower_toString_ne n "false" (by decide)
  have hread : Decimal.readInt? (toString n) = some (n : Int) := Decimal.readInt?_toString n
  have hlength : (Nat.toDigits 10 n).length ≤ 20 :=
    (Nat.length_toDigits_le_iff (by decide) (by decide)).2 (Nat.lt_trans hn (by decide))
  have hfloat := Decimal.readBinary64?_toString (Nat.le_trans hlength (by decide))
  have hfits : minInt64 ≤ (n : Int) ∧ (n : Int) ≤ maxInt64 ↔ n < 2 ^ 63 := by
    unfold minInt64 maxInt64
    omega
  unfold guess
  simp only [if_neg htrue, if_neg hfalse, hread, hfloat, Option.filter_some, hfits,
    decide_eq_true_eq]
  by_cases hsmall : n < 2 ^ 63
  · simp only [if_pos hsmall]
  · simp only [if_neg hsmall]

/-! ## Sources -/

/-- Where a number is set: by a variable, or in a file as a
number or as a text. -/
inductive NumberSource where
  | environment
  | fileNumber
  | fileText
  deriving DecidableEq, Repr

namespace NumberSource

/-- The value that the numeral of a number is. -/
def value (n : Nat) : NumberSource → SettingValue
  | environment => Environment.guess (toString n)
  | fileNumber => Json.wholeNumber false n
  | fileText => .text (toString n)

/-- What is left of a number. -/
def received (n : Nat) : NumberSource → Nat
  | environment => if n < 2 ^ 63 then n else Binary64.nearest n
  | fileNumber | fileText => n

variable {source : NumberSource} {n : Nat}

theorem received_of_small (hsmall : n < 2 ^ 63) : source.received n = n := by
  cases source with
  | environment => exact if_pos hsmall
  | fileNumber | fileText => rfl

theorem received_of_large (hlarge : ¬ n < 2 ^ 63) :
    environment.received n = Binary64.nearest n :=
  if_neg hlarge

theorem received_lt (hn : n < unsignedLimit) : source.received n < unsignedLimit := by
  cases source with
  | environment =>
      by_cases hsmall : n < 2 ^ 63
      · rwa [received_of_small hsmall]
      · rw [received_of_large hsmall]
        exact Binary64.nearest_lt n
  | fileNumber | fileText => exact hn

/-- A number is kept unless a variable sets it to one that is not
rounded to itself. -/
theorem received_eq_iff (hn : n < unsignedLimit) : source.received n = n ↔
    source ≠ .environment ∨ n < 2 ^ 63 ∨ 2048 ∣ n ∨ n = unsignedLimit - 1 := by
  cases source with
  | environment =>
      by_cases hsmall : n < 2 ^ 63
      · exact iff_of_true (received_of_small hsmall) (.inr (.inl hsmall))
      · rw [received_of_large hsmall, Binary64.nearest_eq_iff hn]
        simp only [ne_eq, not_true_eq_false, false_or, hsmall]
  | fileNumber | fileText => exact iff_of_true rfl (.inl (by decide))

/-- What is left of a number that does not fit 32 bits does not
fit them either. -/
theorem received_size (hn : n < unsignedLimit) : source.received n < 2 ^ 32 ↔ n < 2 ^ 32 := by
  cases source with
  | environment =>
      by_cases hsmall : n < 2 ^ 63
      · rw [received_of_small hsmall]
      · have hnear := Binary64.le_nearest hn
        rw [received_of_large hsmall]
        omega
  | fileNumber | fileText => exact Iff.rfl

/-- The conversion of the numeral to a number without a sign. -/
theorem toUnsigned_value (hn : n < unsignedLimit) :
    (source.value n).toUnsigned = .ok (.ofNat (source.received n)) := by
  cases source with
  | environment =>
      rw [value, Environment.guess_toString hn]
      by_cases hsmall : n < 2 ^ 63
      · rw [if_pos hsmall, received_of_small hsmall]
        simp [SettingValue.toUnsigned]
      · rw [if_neg hsmall, received_of_large hsmall, SettingValue.toUnsigned,
          Binary64.toUInt64_ofNat (Nat.le_of_not_lt hsmall) hn]
  | fileNumber =>
      by_cases hsmall : (n : Int) ≤ maxInt64
      · simp [value, received, Json.wholeNumber, hsmall, SettingValue.toUnsigned]
      · simp [value, received, Json.wholeNumber, hsmall, SettingValue.toUnsigned]
  | fileText =>
      simp only [value, received, SettingValue.toUnsigned, truthOfWord?_toString,
        Decimal.readNat?_toString, if_pos hn]

/-- `Sets d env file key n source`: a load from the file and the environment
is given the key by the source, with the numeral of the number. What the
environment sets overrides the file. -/
inductive Sets (d : Directory) (env : List (String × String)) (file : Option String)
    (key : String) (n : Nat) : NumberSource → Prop
  | environment : Environment.value? env key = some (toString n) → Sets d env file key n environment
  | fileNumber {path : String} {found : Directory.Found} : Environment.value? env key = none →
      file = some path → d.find path = .ok found → found.format = .json →
      Json.IsObjectWith key (Nat.toDigits 10 n) found.text → Sets d env file key n fileNumber
  | fileText {path : String} {found : Directory.Found} : Environment.value? env key = none →
      file = some path → d.find path = .ok found → found.format = .json →
      Json.IsObjectWith key ('"' :: (Nat.toDigits 10 n ++ ['"'])) found.text →
      Sets d env file key n fileText

/-- The last member for a key in the file is its effective setting. -/
theorem effective?_of_file {d : Directory} {env : List (String × String)} {path origin key : String}
    {entries : List (String × SettingValue)} {found : Directory.Found} {value : List Char}
    {v : SettingValue} (h : d.Holds (some path) origin entries)
    (henv : Environment.value? env key = none) (hfind : d.find path = .ok found)
    (hformat : found.format = .json) (hkey : ∀ c ∈ key.toList, Json.IsPlainChar c)
    (hv : Json.IsValue value v) (hobject : Json.IsObjectWith key value found.text) :
    Setting.effective? env origin entries key = some (.found origin v) := by
  cases h with
  | file hfind' hentries =>
      obtain rfl := Except.ok.inj (hfind.symm.trans hfind')
      obtain ⟨ms, hms, hlast⟩ := Json.read?_of_isObjectWith hkey hv hobject
      have hread : found.entries? = some ms := by
        simp only [Directory.Found.entries?, hformat, hms]
      obtain rfl := Option.some.inj (hread.symm.trans hentries)
      simp only [Setting.effective?, henv, hlast, Option.map_some]

variable {d : Directory} {env : List (String × String)} {file : Option String}
  {origin key : String} {entries : List (String × SettingValue)}

/-- What a source sets is the effective setting. -/
theorem effective?_of_sets (h : d.Holds file origin entries) (hn : n < unsignedLimit)
    (hkey : ∀ c ∈ key.toList, Json.IsPlainChar c) (hset : source.Sets d env file key n) :
    ∃ origin', Setting.effective? env origin entries key =
      some (.found origin' (source.value n)) := by
  cases hset with
  | environment henv => exact ⟨Environment.origin, by simp only [Setting.effective?, henv, value]⟩
  | fileNumber henv hfile hfind hformat hobject =>
      subst hfile
      exact ⟨origin, effective?_of_file h henv hfind hformat hkey (Json.isValue_number hn) hobject⟩
  | fileText henv hfile hfind hformat hobject =>
      subst hfile
      have hvalue := Json.isValue_text (fun c (hc : c ∈ Nat.toDigits 10 n) =>
        Json.isPlainChar_of_isDigit (Decimal.isDigit_of_mem hc))
      rw [← Decimal.toList_toString, String.ofList_toList] at hvalue
      rw [← Decimal.toList_toString] at hobject
      exact ⟨origin, effective?_of_file h henv hfind hformat hkey hvalue hobject⟩

end NumberSource

/-! ## Loads -/

namespace ClientConfig

variable {d : Directory} {env : List (String × String)} {file : Option String} {origin : String}
  {entries : List (String × SettingValue)} {c c' : ClientConfig} {source : NumberSource} {n : Nat}

/-- The keys of the settings are plain texts. -/
theorem isPlainChar_of_mem_key (f : ConfigField) : ∀ c ∈ f.key.toList, Json.IsPlainChar c := by
  have hall : f.key.toList.all (fun c => decide (Json.IsPlainChar c)) = true := by
    cases f <;> decide
  simpa only [List.all_eq_true, decide_eq_true_eq] using hall

theorem get_retryIntervalSeconds_of_ne {f : ConfigField} (hf : f ≠ .retryIntervalSeconds)
    (seconds : UInt64) : f.get { c with retryIntervalSeconds := seconds } = f.get c := by
  cases f with
  | retryIntervalSeconds => exact absurd rfl hf
  | _ => rfl

theorem get_maxRetries_of_ne {f : ConfigField} (hf : f ≠ .maxRetries) (retries : UInt32) :
    f.get { c with maxRetries := retries } = f.get c := by
  cases f with
  | maxRetries => exact absurd rfl hf
  | _ => rfl

/-- One field has its value in a valid configuration, and all others
have theirs in one that is the same apart from that field: then the
valid one is loaded. -/
theorem load_of_field {f₀ : ConfigField} (h : Reads d env file origin entries)
    (hvalid : c'.validate = .ok ()) (hvalue : f₀.value env origin entries = .ok (f₀.get c'))
    (hsame : ∀ f, f ≠ f₀ → f.get c' = f.get c)
    (hothers : ∀ f, f ≠ f₀ → f.value env origin entries = .ok (f.get c)) :
    load d env file = .ok c' := by
  have hvalues : ∀ f : ConfigField, f.value env origin entries = .ok (f.get c') := by
    intro f
    by_cases hf : f = f₀
    · subst hf
      exact hvalue
    · rw [hothers f hf, hsame f hf]
  rw [load_eq h, ConfigField.collect_eq_ok.2 hvalues]
  show (c'.validate.map fun _ => c') = .ok c'
  rw [hvalid]
  rfl

/-- The interval between retries that a source sets. -/
theorem value_interval (h : Reads d env file origin entries) (hn : n < unsignedLimit)
    (hset : source.Sets d env file ConfigField.retryIntervalSeconds.key n) :
    ConfigField.retryIntervalSeconds.value env origin entries =
      .ok (.ofNat (source.received n)) := by
  obtain ⟨origin', heffective⟩ :=
    NumberSource.effective?_of_sets h.holds hn (isPlainChar_of_mem_key _) hset
  rw [ConfigField.value, heffective]
  exact Setting.convert_found (NumberSource.toUnsigned_value hn)

/-- The number of retries that a source sets, as far as it fits 32 bits. -/
theorem value_maxRetries (h : Reads d env file origin entries) (hn : n < unsignedLimit)
    (hset : source.Sets d env file ConfigField.maxRetries.key n) :
    ConfigField.maxRetries.value env origin entries =
      if n < 2 ^ 32 then .ok (.ofNat n)
      else .error (.wrongType ⟨.unsigned (source.received n), "an unsigned 32 bit integer"⟩
        "max_retries" none) := by
  obtain ⟨origin', heffective⟩ :=
    NumberSource.effective?_of_sets h.holds hn (isPlainChar_of_mem_key _) hset
  have hconvert : (Setting.found origin' (source.value n)).convert ConfigField.maxRetries.key
      (·.toUnsigned) = .ok (.ofNat (source.received n)) :=
    Setting.convert_found (NumberSource.toUnsigned_value hn)
  have hsize : (UInt64.ofNat (source.received n)).toNat = source.received n :=
    UInt64.toNat_ofNat_of_lt' (NumberSource.received_lt hn)
  rw [ConfigField.value, heffective]
  simp only [ConfigField.evaluate, ConfigField.convert, hconvert, bind, Except.bind, hsize]
  by_cases hsmall : n < 2 ^ 32
  · have hkept : source.received n = n :=
      NumberSource.received_of_small (Nat.lt_trans hsmall (by decide))
    have hsize' : n < UInt32.size := hsmall
    rw [if_pos hsmall, hkept, if_pos hsize', UInt64.toUInt32_ofNat']
    rfl
  · have hlarge : ¬ source.received n < UInt32.size :=
      fun h => hsmall ((NumberSource.received_size hn).1 h)
    rw [if_neg hsmall, if_neg hlarge]
    rfl

/-- **Whole numbers from every source.** Take a valid configuration, and a
source that sets the interval between retries, or the number of retries,
to a whole number below `2 ^ 64`; let all other settings be as in the
configuration. Then the load has the interval that is left of the number:
the number itself from a file, and from a variable below `2 ^ 63`, and
from there on exactly if it is the largest one or a multiple of 2048. It
has the number of retries if that fits 32 bits, and else it fails with the
type of that setting. -/
theorem load_whole_number (h : Reads d env file origin entries) (hvalid : c.validate = .ok ())
    (hn : n < unsignedLimit) :
    (source.Sets d env file ConfigField.retryIntervalSeconds.key n →
      (∀ f : ConfigField, f ≠ .retryIntervalSeconds →
        f.value env origin entries = .ok (f.get c)) →
      load d env file = .ok { c with retryIntervalSeconds := .ofNat (source.received n) }) ∧
    (source.received n < unsignedLimit ∧ (source.received n = n ↔
      source ≠ .environment ∨ n < 2 ^ 63 ∨ 2048 ∣ n ∨ n = unsignedLimit - 1)) ∧
    (source.Sets d env file ConfigField.maxRetries.key n →
      (∀ f : ConfigField, f ≠ .maxRetries → f.value env origin entries = .ok (f.get c)) →
      (n < 2 ^ 32 → load d env file = .ok { c with maxRetries := .ofNat n }) ∧
      (2 ^ 32 ≤ n → load d env file = .error (.config (.wrongType
        ⟨.unsigned (source.received n), "an unsigned 32 bit integer"⟩ "max_retries" none)))) := by
  refine ⟨fun hset hothers => ?_,
    ⟨NumberSource.received_lt hn, NumberSource.received_eq_iff hn⟩, fun hset hothers => ⟨?_, ?_⟩⟩
  · exact load_of_field h hvalid (value_interval h hn hset)
      (fun f hf => get_retryIntervalSeconds_of_ne hf _) hothers
  · intro hsmall
    have hvalue := value_maxRetries h hn hset
    rw [if_pos hsmall] at hvalue
    exact load_of_field h hvalid hvalue (fun f hf => get_maxRetries_of_ne hf _) hothers
  · intro hlarge
    have hvalue := value_maxRetries h hn hset
    rw [if_neg (Nat.not_lt_of_le hlarge)] at hvalue
    exact load_of_error h hvalue fun f hf => ⟨_, hothers f hf⟩

/-- A file with an interval that no floating-point number holds. -/
def longInterval : String := "\x7b\"retry_interval_seconds\": 9223372036854775809\x7d"

def longIntervalDirectory : Directory :=
  ⟨"etc", [("ldlm.json", longInterval.toList.map fun c => UInt8.ofNat c.toNat)]⟩

/-- The file keeps its number, and a number of retries that takes 33
bits is refused. -/
theorem load_whole_number_large :
    load longIntervalDirectory [] (some "ldlm.json") =
      .ok { retryIntervalSeconds := 9223372036854775809 } ∧
    load { name := "etc" } [("LDLM_MAX_RETRIES", "4294967296")] none =
      .error (.config (.wrongType ⟨.unsigned 4294967296, "an unsigned 32 bit integer"⟩
        "max_retries" none)) := by
  constructor
  · have hfind : longIntervalDirectory.find "ldlm.json" =
        .ok ⟨"ldlm.json", .json, longInterval.toList.map fun c => UInt8.ofNat c.toNat⟩ := by
      decide +kernel
    have hreads : Reads longIntervalDirectory [] (some "ldlm.json") "ldlm.json"
        [("retry_interval_seconds", .unsigned 9223372036854775809)] := by
      refine ⟨.file hfind (by decide +kernel), ?_, by simp⟩
      intro e he
      obtain rfl := List.mem_singleton.1 he
      exact .of_isNameChar (by decide)
    have hset : NumberSource.fileNumber.Sets longIntervalDirectory [] (some "ldlm.json")
        ConfigField.retryIntervalSeconds.key 9223372036854775809 := by
      refine .fileNumber rfl rfl hfind rfl ⟨[], _, [], rfl, rfl, .last (.mk (a := []) (b := [])
        (c := [' ']) (d := []) rfl rfl rfl rfl), ?_⟩
      decide +kernel
    refine (load_whole_number (c := {}) hreads (by decide +kernel) (by decide)).1 hset ?_
    intro f hf
    cases f with
    | retryIntervalSeconds => exact absurd rfl hf
    | _ => rfl
  · have hreads : Reads { name := "etc" } [("LDLM_MAX_RETRIES", "4294967296")] none "" [] := by
      refine ⟨.nothing "", by simp, ?_⟩
      intro v hv key hname
      obtain rfl := List.mem_singleton.1 hv
      have hkey := Environment.key?_eq_some.2 hname
      have hplain : Environment.key? "LDLM_MAX_RETRIES" = some "max_retries" := by decide +kernel
      obtain rfl := Option.some.inj (hkey.symm.trans hplain)
      exact .of_isNameChar (by decide)
    have hset : NumberSource.environment.Sets { name := "etc" }
        [("LDLM_MAX_RETRIES", "4294967296")] none ConfigField.maxRetries.key 4294967296 :=
      .environment (by decide +kernel)
    refine ((load_whole_number (c := {}) hreads (by decide +kernel) (by decide)).2.2 hset
      ?_).2 (by decide)
    intro f hf
    cases f with
    | maxRetries => exact absurd rfl hf
    | _ => rfl

/-- A variable does not keep the number that the file keeps. -/
theorem load_whole_number_rounded :
    load { name := "etc" } [("LDLM_RETRY_INTERVAL_SECONDS", "9223372036854775809")] none =
      .ok { retryIntervalSeconds := 9223372036854775808 } := by
  decide +kernel

end ClientConfig

end DistLock
