/-
Points in time: a date of the calendar, perhaps with a time of day and an offset from
universal time, and their texts.
-/
namespace ReductionIR

/-- A date, or a time of day on a date, with an optional offset from universal time. -/
structure Moment where
  year : Nat
  month : Nat
  day : Nat
  clock : Option (Nat × Nat × Nat × Nat)
  offset : Option Int
deriving DecidableEq

namespace Moment

/-! The calendar -/

def isLeapYear (year : Nat) : Bool :=
  (year % 4 = 0 && year % 100 ≠ 0) || year % 400 = 0

def daysIn (year month : Nat) : Nat :=
  if month = 2 then (if isLeapYear year then 29 else 28)
  else if month ∈ [4, 6, 9, 11] then 30 else 31

/-- Is it a date of the calendar and a time of the day? -/
def isCalendar (m : Moment) : Bool :=
  decide (1 ≤ m.year) && decide (1 ≤ m.month ∧ m.month ≤ 12) &&
    decide (1 ≤ m.day ∧ m.day ≤ daysIn m.year m.month) &&
    (match m.clock with
      | some (hour, minute, second, _) => decide (hour < 24 ∧ minute < 60 ∧ second < 60)
      | none => true) &&
    (match m.offset with
      | some seconds => decide (-86400 < seconds ∧ seconds < 86400)
      | none => true)

def daysBefore (year month : Nat) : Nat :=
  365 * (year - 1) + (year - 1) / 4 - (year - 1) / 100 + (year - 1) / 400 +
    (List.range (month - 1)).foldl (fun days m => days + daysIn year (m + 1)) 0

/-- The microseconds of universal time, for a time with an offset. -/
def instant? (m : Moment) : Option Int :=
  match m.clock, m.offset with
  | some (hour, minute, second, micro), some offset =>
    let seconds : Int := ((daysBefore m.year m.month + m.day) * 24 + hour) * 3600 +
      minute * 60 + second
    some ((seconds - offset) * 1000000 + micro)
  | _, _ => none

/-- Two times with offsets are the same at the same instant. -/
def isSame (m n : Moment) : Bool :=
  match m.instant?, n.instant? with
  | some s, some t => s == t
  | _, _ => m == n

/-! Texts -/

def padded (width n : Nat) : String :=
  let digits := toString n
  String.ofList (List.replicate (width - digits.length) '0') ++ digits

def dateText (m : Moment) : String :=
  padded 4 m.year ++ "-" ++ padded 2 m.month ++ "-" ++ padded 2 m.day

/-- An offset in seconds as hours and minutes, and seconds when there are some. -/
def offsetText (seconds : Int) : String :=
  let n := seconds.natAbs
  (if seconds < 0 then "-" else "+") ++ padded 2 (n / 3600) ++ ":" ++ padded 2 (n / 60 % 60) ++
    (if n % 60 = 0 then "" else ":" ++ padded 2 (n % 60))

def plain (m : Moment) : String :=
  match m.clock with
  | none => m.dateText
  | some (hour, minute, second, micro) =>
    m.dateText ++ " " ++ padded 2 hour ++ ":" ++ padded 2 minute ++ ":" ++ padded 2 second ++
      (if micro = 0 then "" else "." ++ padded 6 micro) ++
      (match m.offset with
        | none => ""
        | some seconds => offsetText seconds)

def zoneText (seconds : Int) : String :=
  if seconds = 0 then "datetime.timezone.utc"
  else
    let days := seconds / 86400
    let rest := seconds % 86400
    let parts := (if days = 0 then [] else ["days=" ++ toString days]) ++
      (if rest = 0 then [] else ["seconds=" ++ toString rest])
    "datetime.timezone(datetime.timedelta(" ++ ", ".intercalate parts ++ "))"

def quoted (m : Moment) : String :=
  let date := toString m.year ++ ", " ++ toString m.month ++ ", " ++ toString m.day
  match m.clock with
  | none => "datetime.date(" ++ date ++ ")"
  | some (hour, minute, second, micro) =>
    "datetime.datetime(" ++ date ++ ", " ++ toString hour ++ ", " ++ toString minute ++
      (if second = 0 ∧ micro = 0 then "" else ", " ++ toString second) ++
      (if micro = 0 then "" else ", " ++ toString micro) ++
      (match m.offset with
        | none => ""
        | some seconds => ", tzinfo=" ++ zoneText seconds) ++ ")"

end Moment

end ReductionIR
