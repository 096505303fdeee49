import DistLock.Decimal.Numeral

/-!
# Dates and times in TOML

A moment is a date, a time of day, or both; with both there may be an
offset from universal time. It has one text: what was written, with a `T`
between date and time, a capital `Z`, at most nine digits of a second and
no zeros at their end.

Seconds may be left out. The sixtieth second is allowed at any
minute, for leap seconds.
-/

namespace DistLock.Toml

structure Date where
  year : Nat
  month : Nat
  day : Nat
  deriving DecidableEq, Repr

structure TimeOfDay where
  hour : Nat
  minute : Nat
  second : Option Nat := none
  /-- The part of a second, in nanoseconds. -/
  nanosecond : Option Nat := none
  deriving DecidableEq, Repr

/-- How far a clock is from universal time. -/
inductive Offset where
  | universal
  | minutes (n : Int)
  deriving DecidableEq, Repr

inductive Moment where
  | date (d : Date)
  | time (t : TimeOfDay)
  | dateTime (d : Date) (t : TimeOfDay) (offset : Option Offset)
  deriving DecidableEq, Repr

/-! ## Calendar -/

def isLeapYear (year : Nat) : Bool := year % 4 == 0 && (year % 100 != 0 || year % 400 == 0)

def daysOfMonth (year month : Nat) : Nat :=
  if month = 2 then if isLeapYear year then 29 else 28
  else if month ∈ [4, 6, 9, 11] then 30
  else 31

/-- The calendar has this day. -/
def Date.isValid (d : Date) : Bool :=
  1 ≤ d.month && d.month ≤ 12 && 1 ≤ d.day && d.day ≤ daysOfMonth d.year d.month

def TimeOfDay.isValid (t : TimeOfDay) : Bool :=
  t.hour ≤ 23 && t.minute ≤ 59 && t.second.all (· ≤ 60)

/-! ## Reading -/

/-- A number of exactly `n` digits. -/
def readFixed? (n : Nat) (cs : List Char) : Option (Nat × List Char) :=
  let (digits, rest) := Decimal.spanDigits cs
  if digits.length = n then some (Decimal.digitsValue digits, rest) else none

/-- A number of exactly `n` digits behind the character `c`. -/
def readAfter? (c : Char) (n : Nat) : List Char → Option (Nat × List Char)
  | d :: cs => if d = c then readFixed? n cs else none
  | [] => none

def readDate? (cs : List Char) : Option (Date × List Char) := do
  let (year, cs) ← readFixed? 4 cs
  let (month, cs) ← readAfter? '-' 2 cs
  let (day, cs) ← readAfter? '-' 2 cs
  let d : Date := { year, month, day }
  if d.isValid then some (d, cs) else none

/-- The nanoseconds that the digits behind the point are; those after the
ninth do not count. -/
def nanoseconds (digits : List Char) : Nat :=
  Decimal.digitsValue (digits.take 9) * Nat.pow 10 (9 - digits.length)

/-- The seconds with their fraction, if they are given. -/
def readSeconds? (cs : List Char) : Option (Option Nat × Option Nat × List Char) :=
  match cs with
  | ':' :: cs =>
    (readFixed? 2 cs).bind fun (second, cs) =>
      match cs with
      | '.' :: cs =>
        let (digits, rest) := Decimal.spanDigits cs
        if digits.isEmpty then none else some (some second, some (nanoseconds digits), rest)
      | cs => some (some second, none, cs)
  | cs => some (none, none, cs)

def readTime? (cs : List Char) : Option (TimeOfDay × List Char) := do
  let (hour, cs) ← readFixed? 2 cs
  let (minute, cs) ← readAfter? ':' 2 cs
  let (second, nanosecond, cs) ← readSeconds? cs
  let t : TimeOfDay := { hour, minute, second, nanosecond }
  if t.isValid then some (t, cs) else none

/-- The offset at the end of a moment. -/
def readOffset? (cs : List Char) : Option (Option Offset) :=
  match cs with
  | [] => some none
  | ['Z'] | ['z'] => some (some .universal)
  | sign :: cs =>
    if sign = '+' ∨ sign = '-' then
      match readFixed? 2 cs with
      | none => none
      | some (hours, cs) =>
        match readAfter? ':' 2 cs with
        | some (minutes, []) =>
          let n : Int := 60 * hours + minutes
          if hours ≤ 23 ∧ minutes ≤ 59 then some (some (.minutes (if sign = '-' then -n else n)))
          else none
        | _ => none
    else none

/-- Characters between a date and a time. -/
def isDateEnd (c : Char) : Bool := c == 'T' || c == 't' || c == ' '

/-- The moment that a word is. -/
def Moment.read? (cs : List Char) : Option Moment :=
  match readDate? cs with
  | some (d, []) => some (.date d)
  | some (d, c :: cs) =>
    if isDateEnd c then
      (readTime? cs).bind fun (t, cs) => (readOffset? cs).map (.dateTime d t)
    else none
  | none =>
    match readTime? cs with
    | some (t, []) => some (.time t)
    | _ => none

/-! ## Writing -/

/-- A number in at least `width` digits. -/
def padded (width n : Nat) : String :=
  let digits := Nat.toDigits 10 n
  String.ofList (List.replicate (width - digits.length) '0' ++ digits)

def Date.text (d : Date) : String :=
  padded 4 d.year ++ "-" ++ padded 2 d.month ++ "-" ++ padded 2 d.day

/-- A part of a second without zeros at its end; of nothing but
zeros, one is kept. -/
def fractionText (nanosecond : Nat) : String :=
  match (padded 9 nanosecond).toList.reverse.dropWhile (· == '0') with
  | [] => "0"
  | digits => String.ofList digits.reverse

def TimeOfDay.text (t : TimeOfDay) : String :=
  padded 2 t.hour ++ ":" ++ padded 2 t.minute
    ++ t.second.elim "" (":" ++ padded 2 ·)
    ++ t.nanosecond.elim "" ("." ++ fractionText ·)

def Offset.text : Offset → String
  | .universal => "Z"
  | .minutes n =>
    (if n < 0 then "-" else "+") ++ padded 2 (n.natAbs / 60) ++ ":" ++ padded 2 (n.natAbs % 60)

def Moment.text : Moment → String
  | .date d => d.text
  | .time t => t.text
  | .dateTime d t offset => d.text ++ "T" ++ t.text ++ offset.elim "" Offset.text

end DistLock.Toml
