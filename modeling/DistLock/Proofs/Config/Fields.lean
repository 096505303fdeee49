import DistLock.Config

/-!
# The fields of a configuration

Each field has a key, under which its setting is found, a type and a
conversion. The configuration that settings make has in each field the
conversion of the setting with its key, or its default
(`toConfig_eq_collect`, `collect_eq_ok`), and where there is none, one of
the fields is to blame (`exists_of_collect_eq_error`).
-/

namespace DistLock

/-! ## Computations that may fail -/

theorem bind_eq_ok {ε α β : Type} {x : Except ε α} {f : α → Except ε β} {b : β} :
    (x >>= f) = .ok b ↔ ∃ a, x = .ok a ∧ f a = .ok b := by
  cases x <;> simp [bind, Except.bind]

theorem bind_eq_error {ε α β : Type} {x : Except ε α} {f : α → Except ε β} {e : ε} :
    (x >>= f) = .error e ↔ x = .error e ∨ ∃ a, x = .ok a ∧ f a = .error e := by
  cases x <;> simp [bind, Except.bind]

/-! ## Fields -/

inductive ConfigField where
  | address | password | useTls | caFile | tlsCert | tlsKey | noAutoRefresh | maxRetries
  | retryIntervalSeconds
  deriving DecidableEq, Repr

/-- A setting converted to a type; what cannot be converted is reported with
its key and origin. -/
def Setting.convert {α : Type} (x : Setting) (key : String)
    (convert : SettingValue → Except Mismatch α) : Except ConfigError α :=
  (convert x.value).mapError fun mismatch => .wrongType mismatch key x.origin

/-- A text that may also be left empty. -/
def SettingValue.toOptionalText : SettingValue → Except Mismatch (Option String)
  | .unit => .ok none
  | v => v.toText.map some

namespace ConfigField

/-- The key of the setting. -/
def key : ConfigField → String
  | address => "address"
  | password => "password"
  | useTls => "use_tls"
  | caFile => "ca_file"
  | tlsCert => "tls_cert"
  | tlsKey => "tls_key"
  | noAutoRefresh => "no_auto_refresh"
  | maxRetries => "max_retries"
  | retryIntervalSeconds => "retry_interval_seconds"

abbrev Value : ConfigField → Type
  | address => String
  | password | caFile | tlsCert | tlsKey => Option String
  | useTls | noAutoRefresh => Bool
  | maxRetries => UInt32
  | retryIntervalSeconds => UInt64

/-- The value of the field in a configuration. -/
def get : (f : ConfigField) → ClientConfig → f.Value
  | address, c => c.address
  | password, c => c.password
  | useTls, c => c.useTls
  | caFile, c => c.caFile
  | tlsCert, c => c.tlsCert
  | tlsKey, c => c.tlsKey
  | noAutoRefresh, c => c.noAutoRefresh
  | maxRetries, c => c.maxRetries
  | retryIntervalSeconds, c => c.retryIntervalSeconds

/-- The conversion of a setting to the type of the field. A number of
retries is converted like any number; one that does not fit 32 bits is
reported without its origin. -/
def convert : (f : ConfigField) → Setting → Except ConfigError f.Value
  | address, x => x.convert address.key (·.toText)
  | password, x => x.convert password.key (·.toOptionalText)
  | useTls, x => x.convert useTls.key (·.toBool)
  | caFile, x => x.convert caFile.key (·.toOptionalText)
  | tlsCert, x => x.convert tlsCert.key (·.toOptionalText)
  | tlsKey, x => x.convert tlsKey.key (·.toOptionalText)
  | noAutoRefresh, x => x.convert noAutoRefresh.key (·.toBool)
  | maxRetries, x => do
      let n ← x.convert maxRetries.key (·.toUnsigned)
      if n.toNat < UInt32.size then pure n.toUInt32
      else throw (.wrongType ⟨.unsigned n.toNat, "an unsigned 32 bit integer"⟩ maxRetries.key none)
  | retryIntervalSeconds, x => x.convert retryIntervalSeconds.key (·.toUnsigned)

/-- The value that a setting gives the field; without one it
has its default. -/
def evaluate (f : ConfigField) : Option Setting → Except ConfigError f.Value
  | none => .ok (f.get {})
  | some x => f.convert x

/-- The configuration with the given values, or the error of the first
field that has none. -/
def collect (x : (f : ConfigField) → Except ConfigError f.Value) :
    Except ConfigError ClientConfig := do
  pure
    { address := ← x address
      password := ← x password
      useTls := ← x useTls
      caFile := ← x caFile
      tlsCert := ← x tlsCert
      tlsKey := ← x tlsKey
      noAutoRefresh := ← x noAutoRefresh
      maxRetries := ← x maxRetries
      retryIntervalSeconds := ← x retryIntervalSeconds }

variable {x : (f : ConfigField) → Except ConfigError f.Value} {c : ClientConfig} {e : ConfigError}

theorem collect_eq_ok : collect x = .ok c ↔ ∀ f, x f = .ok (f.get c) := by
  constructor
  · intro h
    simp only [collect, bind_eq_ok] at h
    obtain ⟨a₁, h₁, a₂, h₂, a₃, h₃, a₄, h₄, a₅, h₅, a₆, h₆, a₇, h₇, a₈, h₈, a₉, h₉, h⟩ := h
    obtain rfl := Except.ok.inj h
    intro f
    cases f <;> assumption
  · intro h
    simp only [collect, h]
    rfl

theorem exists_of_collect_eq_error (h : collect x = .error e) : ∃ f, x f = .error e := by
  simp only [collect, bind_eq_error] at h
  rcases h with h | ⟨_, _, h | ⟨_, _, h | ⟨_, _, h | ⟨_, _, h | ⟨_, _, h | ⟨_, _, h | ⟨_, _, h |
    ⟨_, _, h | ⟨_, _, h⟩⟩⟩⟩⟩⟩⟩⟩⟩
  iterate 9 exact ⟨_, h⟩
  -- the configuration itself is no error
  cases h

/-- If all fields have values but one, its error is the error of the whole. -/
theorem collect_eq_error {f : ConfigField} (hf : x f = .error e)
    (hothers : ∀ f', f' ≠ f → ∃ v, x f' = .ok v) : collect x = .error e := by
  cases h : collect x with
  | ok c => exact absurd (hf.symm.trans (collect_eq_ok.1 h f)) (by simp)
  | error e' =>
      obtain ⟨f', hf'⟩ := exists_of_collect_eq_error h
      by_cases heq : f' = f
      · subst heq
        rw [hf] at hf'
        obtain rfl := Except.error.inj hf'
        rfl
      · obtain ⟨v, hv⟩ := hothers f' heq
        exact absurd (hf'.symm.trans hv) (by simp)

/-- If all fields have values, there is a configuration with these values. -/
theorem exists_collect_eq_ok (h : ∀ f, ∃ v, x f = .ok v) : ∃ c, collect x = .ok c := by
  cases hx : collect x with
  | ok c => exact ⟨c, rfl⟩
  | error e =>
      obtain ⟨f, hf⟩ := exists_of_collect_eq_error hx
      obtain ⟨v, hv⟩ := h f
      exact absurd (hf.symm.trans hv) (by simp)

end ConfigField

namespace Settings

variable (s : Settings)

theorem read_eq {α : Type} (key : String) (default : α)
    (convert : SettingValue → Except Mismatch α) :
    s.read key default convert = (s.get? key).elim (.ok default) (·.convert key convert) := by
  unfold read
  cases s.get? key <;> rfl

/-- The fields of the configuration that settings make are the values
of the settings. -/
theorem toConfig_eq_collect :
    s.toConfig = ConfigField.collect fun f => f.evaluate (s.get? f.key) := by
  have hread (f : ConfigField) (convert : SettingValue → Except Mismatch f.Value)
      (h : f.convert = (·.convert f.key convert)) :
      s.read f.key (f.get {}) convert = f.evaluate (s.get? f.key) := by
    rw [read_eq]
    cases s.get? f.key with
    | none => rfl
    | some x => exact (congrFun h x).symm
  have hretries : s.readUInt32 ConfigField.maxRetries.key 0 =
      ConfigField.maxRetries.evaluate (s.get? ConfigField.maxRetries.key) := by
    unfold readUInt32
    rw [read_eq]
    cases s.get? ConfigField.maxRetries.key <;> rfl
  dsimp only [toConfig, ConfigField.collect]
  rw [← hread .address (·.toText) rfl, ← hread .password (·.toOptionalText) rfl,
    ← hread .useTls (·.toBool) rfl, ← hread .caFile (·.toOptionalText) rfl,
    ← hread .tlsCert (·.toOptionalText) rfl, ← hread .tlsKey (·.toOptionalText) rfl,
    ← hread .noAutoRefresh (·.toBool) rfl, ← hretries,
    ← hread .retryIntervalSeconds (·.toUnsigned) rfl]
  rfl

end Settings

end DistLock
