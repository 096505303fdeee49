import DistLock.Proofs.Config.Fields
import DistLock.Proofs.Config.Settings

/-!
# Which source of a configuration counts

The setting of a field is that of the environment, else that of the file,
else there is none (`Setting.effective?`). A load hands the effective
settings of the nine fields to their conversions (`load_eq`), so nothing
else in its sources has a part in its result (`load_precedence`).
-/

namespace DistLock

/-- The key is no path into a setting of a client: it is that of a setting,
or it is unknown. -/
def IsWholeKey (key : String) : Prop :=
  ∀ f : ConfigField, ¬ (KeyPath.ofKey key).PointsInto f.key

/-- Plain names are such keys. -/
theorem IsWholeKey.of_isNameChar {key : String}
    (h : key.toList.all KeyPath.isNameChar = true) : IsWholeKey key := by
  intro f
  rw [KeyPath.ofKey_of_isNameChar h]
  rintro (h | h) <;> cases h

theorem ConfigField.ofKey_key (f : ConfigField) : KeyPath.ofKey f.key = .field f.key :=
  KeyPath.ofKey_of_isNameChar (by cases f <;> decide)

/-- What the file of a load holds, and where it was found; without a file
that is nothing. -/
inductive Directory.Holds (d : Directory) :
    Option String → (origin : String) → List (String × SettingValue) → Prop
  | nothing (origin : String) : d.Holds none origin []
  | file {path : String} {found : Directory.Found} {entries : List (String × SettingValue)} :
      d.find path = .ok found → found.entries? = some entries →
      d.Holds (some path) found.origin entries

/-- A load reads the entries from its file, and neither these nor the
variables set parts of settings. -/
structure ClientConfig.Reads (d : Directory) (env : List (String × String)) (file : Option String)
    (origin : String) (entries : List (String × SettingValue)) : Prop where
  holds : d.Holds file origin entries
  wholeEntries : ∀ e ∈ entries, IsWholeKey e.1
  wholeVariables : ∀ v ∈ env, ∀ key, Text.lower v.1 = Environment.namePrefix ++ key → IsWholeKey key

/-- The effective setting of a key: that of the environment, else
that of the file. -/
def Setting.effective? (env : List (String × String)) (origin : String)
    (entries : List (String × SettingValue)) (key : String) : Option Setting :=
  match Environment.value? env key with
  | some text => some (.found Environment.origin (Environment.guess text))
  | none => (lastValue? entries key).map (.found origin)

/-- The value that the effective setting gives a field. -/
def ConfigField.value (env : List (String × String)) (origin : String)
    (entries : List (String × SettingValue)) (f : ConfigField) : Except ConfigError f.Value :=
  f.evaluate (Setting.effective? env origin entries f.key)

namespace ClientConfig

variable {d : Directory} {env : List (String × String)} {file : Option String} {origin : String}
  {entries : List (String × SettingValue)} {c : ClientConfig}

/-- The settings of a file and an environment. -/
def gathered (env : List (String × String)) (origin : String)
    (entries : List (String × SettingValue)) : Settings :=
  (Settings.putAll [] origin entries).putAll Environment.origin (Environment.entries env)

theorem get?_gathered (h : Reads d env file origin entries) (f : ConfigField) :
    (gathered env origin entries).get? f.key = Setting.effective? env origin entries f.key := by
  have hvariables : ∀ e ∈ Environment.entries env, ¬ (KeyPath.ofKey e.1).PointsInto f.key := by
    intro e he
    obtain ⟨v, hv, hname⟩ := Environment.mem_entries he
    exact h.wholeVariables v hv e.1 hname f
  unfold gathered Setting.effective?
  rw [Settings.get?_putAll _ f.ofKey_key _ hvariables,
    Settings.get?_putAll _ f.ofKey_key _ fun e he => h.wholeEntries e he f,
    Environment.lastValue?_entries]
  cases Environment.value? env f.key with
  | some text => rfl
  | none => simp [Settings.get?]

theorem load_of_holds (h : d.Holds file origin entries) :
    load d env file = (gathered env origin entries).toConfig.mapError .config >>=
      fun c => c.validate.map fun _ => c := by
  cases h with
  | nothing origin => rfl
  | file hfind hread =>
      unfold load Settings.ofFile
      simp only [hfind, bind, Except.bind, hread]
      rfl

/-- A load collects the values of the fields, and validates what it has got. -/
theorem load_eq (h : Reads d env file origin entries) :
    load d env file = (ConfigField.collect (ConfigField.value env origin entries)).mapError .config
      >>= fun c => c.validate.map fun _ => c := by
  have hvalues : (fun f => ConfigField.evaluate f ((gathered env origin entries).get? f.key)) =
      ConfigField.value env origin entries := by
    funext f
    rw [get?_gathered h]
    rfl
  rw [load_of_holds h.holds, Settings.toConfig_eq_collect, hvalues]

/-- A configuration that is loaded is valid, and has the
values of the fields. -/
theorem of_load_eq_ok (h : Reads d env file origin entries) (hload : load d env file = .ok c) :
    c.validate = .ok () ∧ ∀ f : ConfigField, f.value env origin entries = .ok (f.get c) := by
  rw [load_eq h, bind_eq_ok] at hload
  obtain ⟨c', hcollect, hvalid⟩ := hload
  cases hc : ConfigField.collect (ConfigField.value env origin entries) with
  | error e =>
      rw [hc] at hcollect
      cases hcollect
  | ok c'' =>
      rw [hc] at hcollect
      obtain rfl := Except.ok.inj hcollect
      cases hv : c''.validate with
      | error e =>
          rw [hv] at hvalid
          cases hvalid
      | ok _ =>
          rw [hv] at hvalid
          obtain rfl := Except.ok.inj hvalid
          exact ⟨hv, ConfigField.collect_eq_ok.1 hc⟩

/-- If all fields have values, the configuration with these
values is validated. -/
theorem load_of_values (h : Reads d env file origin entries)
    (hvalues : ∀ f : ConfigField, ∃ v, f.value env origin entries = .ok v) :
    ∃ c, (∀ f : ConfigField, f.value env origin entries = .ok (f.get c)) ∧
      load d env file = c.validate.map fun _ => c := by
  obtain ⟨c, hc⟩ := ConfigField.exists_collect_eq_ok hvalues
  refine ⟨c, ConfigField.collect_eq_ok.1 hc, ?_⟩
  rw [load_eq h, hc]
  rfl

/-- If all fields have values but one, its error is that of the load. -/
theorem load_of_error (h : Reads d env file origin entries) {f : ConfigField} {e : ConfigError}
    (hf : f.value env origin entries = .error e)
    (hothers : ∀ f' : ConfigField, f' ≠ f → ∃ v, f'.value env origin entries = .ok v) :
    load d env file = .error (.config e) := by
  rw [load_eq h, ConfigField.collect_eq_error hf hothers]
  rfl

/-- Loads with the same effective settings have the same result. -/
theorem load_congr {d' : Directory} {env' : List (String × String)} {file' : Option String}
    {origin' : String} {entries' : List (String × SettingValue)}
    (h : Reads d env file origin entries) (h' : Reads d' env' file' origin' entries')
    (heffective : ∀ f : ConfigField, Setting.effective? env' origin' entries' f.key =
      Setting.effective? env origin entries f.key) : load d' env' file' = load d env file := by
  have hvalues :
      ConfigField.value env' origin' entries' = ConfigField.value env origin entries := by
    funext f
    unfold ConfigField.value
    rw [heffective f]
  rw [load_eq h, load_eq h', hvalues]

/-- **Precedence of the sources.** A configuration that is loaded is valid
and has in every field the conversion of the effective setting: that of the
environment, else the last one in the file, else the default. If all of these
can be converted, nothing but the validation decides; if one cannot, the load
fails with its error. The result depends on nothing else: not on settings of
the file that the environment overrides, however wrong they are, nor on
unknown keys and variables. And without a file it is that of an empty one. -/
theorem load_precedence (h : Reads d env file origin entries) :
    (∀ c, load d env file = .ok c →
      c.validate = .ok () ∧ ∀ f : ConfigField, f.value env origin entries = .ok (f.get c)) ∧
    ((∀ f : ConfigField, ∃ v, f.value env origin entries = .ok v) →
      ∃ c, (∀ f : ConfigField, f.value env origin entries = .ok (f.get c)) ∧
        load d env file = c.validate.map fun _ => c) ∧
    (∀ (f : ConfigField) e, f.value env origin entries = .error e →
      (∀ f' : ConfigField, f' ≠ f → ∃ v, f'.value env origin entries = .ok v) →
      load d env file = .error (.config e)) ∧
    (∀ d' env' file' origin' entries', Reads d' env' file' origin' entries' →
      (∀ f : ConfigField, Setting.effective? env' origin' entries' f.key =
        Setting.effective? env origin entries f.key) → load d' env' file' = load d env file) ∧
    (∀ d' entries', Reads d' env file origin entries' →
      (∀ f : ConfigField, Environment.value? env f.key = none →
        lastValue? entries' f.key = lastValue? entries f.key) →
      load d' env file = load d env file) ∧
    (∀ env', Reads d env' file origin entries →
      (∀ f : ConfigField, Environment.value? env' f.key = Environment.value? env f.key) →
      load d env' file = load d env file) ∧
    ∀ d' path origin', Reads d' env (some path) origin' [] →
      load d' env (some path) = load d env none := by
  refine ⟨?_, ?_, ?_, ?_, ?_, ?_, ?_⟩
  · intro c hload
    exact of_load_eq_ok h hload
  · intro hvalues
    exact load_of_values h hvalues
  · intro f e hf hothers
    exact load_of_error h hf hothers
  · intro d' env' file' origin' entries' h' heffective
    exact load_congr h h' heffective
  · intro d' entries' h' hentries
    refine load_congr h h' fun f => ?_
    unfold Setting.effective?
    cases hv : Environment.value? env f.key with
    | some text => rfl
    | none => rw [hentries f hv]
  · intro env' h' hvariables
    refine load_congr h h' fun f => ?_
    unfold Setting.effective?
    rw [hvariables f]
  · intro d' path origin' h'
    exact load_congr ⟨.nothing origin', h'.wholeEntries, h'.wholeVariables⟩ h' fun _ => rfl

/-- A file with a number of retries that is none, and an unknown key. -/
def sampleText : String :=
  "\x7b\"address\": \"lock-1:3144\", \"max_retries\": [4], \"color\": null, \"use_tls\": 1\x7d"

def sampleDirectory : Directory :=
  ⟨"etc", [("ldlm.json", sampleText.toList.map fun c => UInt8.ofNat c.toNat)]⟩

/-- An environment that overrides the number of retries, and has an
unknown variable. -/
def sampleEnvironment : List (String × String) :=
  [("LDLM_MAX_RETRIES", "7"), ("Ldlm_Shape", "round")]

/-- What the sample file holds. -/
def sampleEntries : List (String × SettingValue) :=
  [("address", .text "lock-1:3144"), ("max_retries", .sequence), ("color", .unit),
    ("use_tls", .integer 1)]

/-- The file is found by its name without the extension, and the list in
it does no harm. -/
theorem load_precedence_overridden :
    Reads sampleDirectory sampleEnvironment (some "ldlm") "ldlm.json" sampleEntries ∧
    load sampleDirectory sampleEnvironment (some "ldlm") =
      .ok { address := "lock-1:3144", useTls := true, maxRetries := 7 } ∧
    ConfigField.maxRetries.value sampleEnvironment "ldlm.json" sampleEntries = .ok 7 := by
  have hfind : sampleDirectory.find "ldlm" =
      .ok ⟨"ldlm.json", .json, sampleText.toList.map fun c => UInt8.ofNat c.toNat⟩ := by
    decide +kernel
  have hreads : Reads sampleDirectory sampleEnvironment (some "ldlm") "ldlm.json"
      sampleEntries := by
    refine ⟨.file hfind (by decide +kernel), ?_, ?_⟩
    · intro e he
      simp only [sampleEntries, List.mem_cons, List.not_mem_nil, or_false] at he
      rcases he with rfl | rfl | rfl | rfl <;> exact .of_isNameChar (by decide)
    · intro v hv key hname
      have hkey := Environment.key?_eq_some.2 hname
      simp only [sampleEnvironment, List.mem_cons, List.not_mem_nil, or_false] at hv
      rcases hv with rfl | rfl
      · have hplain : Environment.key? "LDLM_MAX_RETRIES" = some "max_retries" := by
          decide +kernel
        obtain rfl := Option.some.inj (hkey.symm.trans hplain)
        exact .of_isNameChar (by decide)
      · have hplain : Environment.key? "Ldlm_Shape" = some "shape" := by decide +kernel
        obtain rfl := Option.some.inj (hkey.symm.trans hplain)
        exact .of_isNameChar (by decide)
  have hload : load sampleDirectory sampleEnvironment (some "ldlm") =
      .ok { address := "lock-1:3144", useTls := true, maxRetries := 7 } := by
    have hconfig : (gathered sampleEnvironment "ldlm.json" sampleEntries).toConfig =
        .ok { address := "lock-1:3144", useTls := true, maxRetries := 7 } := by decide +kernel
    rw [load_of_holds hreads.holds, hconfig]
    decide
  exact ⟨hreads, hload, ((load_precedence hreads).1 _ hload).2 .maxRetries⟩

end ClientConfig

end DistLock
