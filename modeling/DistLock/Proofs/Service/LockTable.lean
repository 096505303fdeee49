import Mathlib.Logic.Function.Basic
import DistLock.Proofs.Entries
import DistLock.Service.LockTable

/-!
# What a lock table does

The keys of the held locks, seen as a function of the name: to hold a lock
and to remove one change it at that name (`key?_hold`, `key?_remove`). No
key is given out twice (`freshKey_injective`).
-/

namespace DistLock

namespace LockTable

variable (t : LockTable) (name key : String)

theorem key?_remove : (t.remove name).key? = Function.update t.key? name none := by
  funext n
  simp only [key?, remove, lookup_filter, Function.update_apply]

theorem key?_hold : (t.hold name key).key? = Function.update t.key? name (some key) := by
  funext n
  by_cases hn : n = name
  · subst hn
    simp [key?, hold]
  · simp [key?, hold, remove, List.lookup_cons, beq_false_of_ne hn, lookup_filter, hn]

/-- Keys that are given out after different numbers of others are different. -/
theorem freshKey_injective : Function.Injective freshKey := by
  intro m n h
  have hrepr : (m + 1).repr = (n + 1).repr := (String.append_right_inj _).1 h
  have hdigits : Nat.toDigits 10 (m + 1) = Nat.toDigits 10 (n + 1) :=
    String.ofList_injective hrepr
  have hnumber := congrArg (Nat.ofDigitChars 10 · 0) hdigits
  simp only [Nat.ofDigitChars_ten_toDigits] at hnumber
  omega

end LockTable

end DistLock
