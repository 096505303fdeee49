import DistLock.Config.Settings

/-!
# Settings from the environment

Variables whose names start with `LDLM_`, in any case, are settings: what
follows is the key, in lower case. Their values are guessed: a truth value,
else a whole number, else a floating-point number, else a text.
-/

namespace DistLock.Environment

/-- The origin of values from the environment. -/
def origin : String := "the environment"

/-- What the names of variables start with, in lower case. -/
def namePrefix : String := "ldlm_"

/-- The key of a variable. -/
def key? (name : String) : Option String :=
  let name := (Text.lower name).toList
  if namePrefix.toList.isPrefixOf name then some (String.ofList (name.drop namePrefix.length))
  else none

/-- The value of a variable. -/
def guess (s : String) : SettingValue :=
  let word := Text.lower s
  if word = "true" then .boolean true
  else if word = "false" then .boolean false
  else
    match (Decimal.readInt? s).filter fun n => minInt64 ≤ n ∧ n ≤ maxInt64 with
    | some n => .integer n
    | none =>
      match Decimal.readBinary64? s with
      | some x => .number x
      | none => .text s

/-- The settings of an environment. -/
def entries (env : List (String × String)) : List (String × SettingValue) :=
  env.filterMap fun (name, value) => (key? name).map (·, guess value)

end DistLock.Environment
