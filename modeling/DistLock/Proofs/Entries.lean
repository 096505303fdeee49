/-!
# Entries by their keys

What removing the entries of one key does to a list of entries, seen as a
function of the key.
-/

namespace DistLock

/-- What is kept of a list does not show what is removed from it, and
shows all else. -/
theorem lookup_filter {α : Type} (entries : List (String × α)) (name n : String) :
    (entries.filter (·.1 != name)).lookup n = if n = name then none else entries.lookup n := by
  induction entries with
  | nil => simp
  | cons p entries ih =>
      obtain ⟨name', key⟩ := p
      have hlookup : ((name', key) :: entries).lookup n =
          if n = name' then some key else entries.lookup n := by
        by_cases hn : n = name' <;> simp [List.lookup_cons, hn, beq_false_of_ne]
      by_cases hp : name' = name
      · rw [List.filter_cons_of_neg (by simp [hp]), ih, hlookup, hp]
        split <;> rfl
      · rw [List.filter_cons_of_pos (by simp [hp]), List.lookup_cons, ih, hlookup]
        by_cases hn : n = name' <;> simp [hn, hp, beq_false_of_ne]

end DistLock
