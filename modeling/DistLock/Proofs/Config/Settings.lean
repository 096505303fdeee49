import Mathlib.Data.List.TakeWhile
import DistLock.Config.Environment
import DistLock.Proofs.Entries

/-!
# Settings by their keys

Putting the values of a source over settings gives each key the last value
that the source has for it, and leaves the others (`get?_putAll`), as long
as no path of the source points into a setting with such a key. The value
that an environment has for a key is that of a variable whose name in lower
case is the key behind `ldlm_` (`lastValue?_entries`).
-/

namespace DistLock

/-! ## Keys as paths -/

namespace KeyPath

/-- The path points at a part of the setting with a key. -/
def PointsInto (path : KeyPath) (key : String) : Prop := path = .member key ∨ path = .element key

instance (path : KeyPath) (key : String) : Decidable (path.PointsInto key) :=
  inferInstanceAs (Decidable (_ ∨ _))

theorem readName?_eq_some {cs rest : List Char} {name : String}
    (h : readName? cs = some (name, rest)) : String.ofList cs = name ++ String.ofList rest := by
  unfold readName? at h
  split at h
  · cases h
  · obtain ⟨rfl, rfl⟩ := Prod.mk.inj (Option.some.inj h)
    rw [← String.ofList_append, List.takeWhile_append_dropWhile]

/-- A key that is the path of a setting is the key of that setting. -/
theorem eq_of_ofKey {key name : String} (h : ofKey key = .field name) : name = key := by
  unfold ofKey at h
  split at h
  case h_2 => exact (KeyPath.field.inj h).symm
  case h_1 name' rest hname =>
      split at h
      case isFalse => exact (KeyPath.field.inj h).symm
      case isTrue htail =>
          split at h
          · cases h
          · cases h
          · -- a name and nothing behind it
            obtain rfl := KeyPath.field.inj h
            have hkey := readName?_eq_some hname
            cases rest with
            | nil => simpa using hkey.symm
            | cons c rest => simp_all [isTail]

/-- A plain name is a path to a setting. -/
theorem ofKey_of_isNameChar {key : String} (h : key.toList.all isNameChar = true) :
    ofKey key = .field key := by
  rw [List.all_eq_true] at h
  unfold ofKey
  split
  case h_2 => rfl
  case h_1 name rest hname =>
      unfold readName? at hname
      split at hname
      · cases hname
      · obtain ⟨rfl, rfl⟩ := Prod.mk.inj (Option.some.inj hname)
        rw [List.takeWhile_eq_self_iff.2 h, List.dropWhile_eq_nil_iff.2 h]
        simp [isTail]

end KeyPath

/-! ## Settings as functions of the key -/

/-- The last value for a key. -/
def lastValue? (entries : List (String × SettingValue)) (key : String) : Option SettingValue :=
  entries.reverse.lookup key

/-- The setting that a value makes; maps are made anew, and have no origin. -/
def Setting.found (origin : String) (value : SettingValue) : Setting :=
  if value = .map then { value } else { value, origin := some origin }

namespace Settings

variable (s : Settings)

theorem get?_insert (key : String) (x : Setting) (k : String) :
    (s.insert key x).get? k = if k = key then some x else s.get? k := by
  by_cases hk : k = key
  · subst hk
    simp [get?, insert]
  · simp [get?, insert, List.lookup_cons, beq_false_of_ne hk, lookup_filter, hk]

/-- What a path changes is the setting that it points at, or into. -/
theorem get?_put {path : KeyPath} {key : String} (h : ¬ path.PointsInto key) (origin : String)
    (v : SettingValue) : (s.put path { value := v, origin := some origin }).get? key =
      if path = .field key then some (.found origin v) else s.get? key := by
  cases path with
  | field k =>
      simp only [put, get?_insert, KeyPath.field.injEq, eq_comm (a := k)]
      unfold Setting.found
      split
      · split <;> simp_all
      · rfl
  | member k =>
      have hk : key ≠ k := fun hk => h (.inl (by rw [hk]))
      simp [put, get?_insert, hk]
  | element k =>
      have hk : key ≠ k := fun hk => h (.inr (by rw [hk]))
      simp [put, get?_insert, hk]

/-- The last value of a source counts, and over what was there before. -/
theorem get?_putAll {key : String} (hkey : KeyPath.ofKey key = .field key) (origin : String)
    {entries : List (String × SettingValue)}
    (h : ∀ e ∈ entries, ¬ (KeyPath.ofKey e.1).PointsInto key) :
    (s.putAll origin entries).get? key =
      ((lastValue? entries key).map (.found origin)).or (s.get? key) := by
  induction entries generalizing s with
  | nil => rfl
  | cons e entries ih =>
      obtain ⟨k, v⟩ := e
      have hiff : KeyPath.ofKey k = .field key ↔ key = k := by
        constructor
        · exact KeyPath.eq_of_ofKey
        · rintro rfl
          exact hkey
      have hput := s.get?_put (h _ List.mem_cons_self) origin v
      have hrest := ih (s.put (.ofKey k) { value := v, origin := some origin })
        fun e he => h e (List.mem_cons_of_mem _ he)
      show (putAll (s.put (.ofKey k) { value := v, origin := some origin }) origin
        entries).get? key = _
      rw [hrest, hput, lastValue?, lastValue?, List.reverse_cons, List.lookup_append]
      cases entries.reverse.lookup key with
      | some _ => rfl
      | none =>
          by_cases hk : key = k
          · subst hk
            simp [hkey]
          · simp [hiff, hk, List.lookup_cons, beq_false_of_ne]

end Settings

/-! ## The environment -/

namespace Environment

/-- The text of the last variable for a key. -/
def value? (env : List (String × String)) (key : String) : Option String :=
  env.reverse.findSome? fun (name, text) =>
    if Text.lower name = namePrefix ++ key then some text else none

theorem key?_eq_some {name key : String} :
    key? name = some key ↔ Text.lower name = namePrefix ++ key := by
  rw [← String.toList_inj, String.toList_append]
  dsimp only [key?]
  split
  case isTrue h =>
      obtain ⟨rest, hrest⟩ := List.isPrefixOf_iff_prefix.1 h
      rw [← hrest, List.append_cancel_left_eq, Option.some.injEq, ← String.toList_inj,
        String.toList_ofList, ← String.length_toList, List.drop_left]
  case isFalse h =>
      constructor
      · intro hnone
        cases hnone
      · intro heq
        exact absurd (List.isPrefixOf_iff_prefix.2 ⟨_, heq.symm⟩) h

theorem lastValue?_entries (env : List (String × String)) (key : String) :
    lastValue? (entries env) key = (value? env key).map guess := by
  unfold lastValue? entries value?
  simp only [← List.filterMap_reverse, ← key?_eq_some]
  induction env.reverse with
  | nil => rfl
  | cons v env ih =>
      obtain ⟨name, text⟩ := v
      simp only [List.findSome?_cons, List.filterMap_cons]
      cases key? name with
      | none => exact ih
      | some k =>
          by_cases hk : key = k
          · subst hk
            simp
          · simp [Ne.symm hk, List.lookup_cons, beq_false_of_ne hk, ih]

theorem mem_entries {env : List (String × String)} {e : String × SettingValue}
    (h : e ∈ entries env) : ∃ v ∈ env, Text.lower v.1 = namePrefix ++ e.1 := by
  obtain ⟨v, hv, he⟩ := List.mem_filterMap.1 h
  obtain ⟨key, hkey, rfl⟩ := Option.map_eq_some_iff.1 he
  exact ⟨v, hv, key?_eq_some.1 hkey⟩

end Environment

end DistLock
