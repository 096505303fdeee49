/-!
# Text of a duration

A duration in milliseconds is shown in seconds, with the decimals that it
needs, or in milliseconds when it is shorter than a second.
-/

namespace DistLock.Text

/-- The decimals of `n` thousandths after a point, without the
zeros at the end. -/
def thousandths (n : Nat) : String :=
  if n = 0 then ""
  else
    let digits := (Nat.toDigits 10 (1000 + n)).tail
    "." ++ String.ofList (digits.reverse.dropWhile (· == '0')).reverse

def duration (ms : Nat) : String :=
  if ms = 0 then "0ns"
  else if ms < 1000 then toString ms ++ "ms"
  else toString (ms / 1000) ++ thousandths (ms % 1000) ++ "s"

end DistLock.Text
