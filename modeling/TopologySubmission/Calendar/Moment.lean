/-!
# Dates and moments

A date is a day of the years 1 to 9999; a moment adds a time of day in microseconds and, if it is
known, the distance from universal time in seconds. `Date.check` and `Moment.check` say which field
is out of its range, the first of them in the order year, month, day, hour, minute, second.

    Date.check y m d = .ok x → x is a day of the calendar      (Date.check_valid)
-/

namespace TopologySubmission

/-! ## Algorithm -/

/-- A day of the calendar. -/
structure Date where
  year : Nat
  month : Nat
  day : Nat
  deriving DecidableEq, Repr, Inhabited

/-- A day with a time, perhaps at a known distance from universal time. -/
structure Moment where
  date : Date
  hour : Nat
  minute : Nat
  second : Nat
  microsecond : Nat
  offset : Option Int
  deriving DecidableEq, Repr, Inhabited

/-- The field of a moment that is out of its range. -/
inductive CalendarError where
  | year (value : Nat)
  | month
  | day
  | hour
  | minute
  | second
  | offset (seconds : Int)
  deriving DecidableEq, Repr

/-- A span of seconds as whole days and the seconds that remain, which are never negative. -/
def splitDays (seconds : Int) : Int × Int := (Int.fdiv seconds 86400, Int.fmod seconds 86400)

/-- A span of time in the words of the calendar. -/
def spanText (seconds : Int) : String :=
  let (d, s) := splitDays seconds
  let parts := (if d = 0 then [] else ["days=" ++ toString d]) ++
    (if s = 0 then [] else ["seconds=" ++ toString s])
  "datetime.timedelta(" ++ (if parts.isEmpty then "0" else ", ".intercalate parts) ++ ")"

def CalendarError.message : CalendarError → String
  | .year y => "year " ++ toString y ++ " is out of range"
  | .month => "month must be in 1..12"
  | .day => "day is out of range for month"
  | .hour => "hour must be in 0..23"
  | .minute => "minute must be in 0..59"
  | .second => "second must be in 0..59"
  | .offset s =>
    "offset must be a timedelta strictly between -timedelta(hours=24) and timedelta(hours=24), not "
      ++ spanText s ++ "."

/-- The years with a day more. -/
def isLeapYear (y : Nat) : Bool := y % 4 == 0 && (y % 100 != 0 || y % 400 == 0)

/-- The number of days of a month. -/
def daysInMonth (y m : Nat) : Nat :=
  if m = 2 then (if isLeapYear y then 29 else 28)
  else if m = 4 ∨ m = 6 ∨ m = 9 ∨ m = 11 then 30
  else 31

/-- The day with these fields, if there is one. -/
def Date.check (y m d : Nat) : Except CalendarError Date :=
  if y < 1 ∨ 9999 < y then .error (.year y)
  else if m < 1 ∨ 12 < m then .error .month
  else if d < 1 ∨ daysInMonth y m < d then .error .day
  else .ok ⟨y, m, d⟩

/-- The distance from universal time, if it is less than a day. -/
def checkOffset (seconds : Int) : Except CalendarError Int :=
  if -86400 < seconds ∧ seconds < 86400 then .ok seconds else .error (.offset seconds)

/-- The moment with these fields, if there is one. -/
def Moment.check (y m d hour minute second microsecond : Nat) (offset : Option Int) :
    Except CalendarError Moment := do
  let offset ← match offset with
    | none => pure none
    | some s => some <$> checkOffset s
  let date ← Date.check y m d
  if 23 < hour then throw .hour
  if 59 < minute then throw .minute
  if 59 < second then throw .second
  pure ⟨date, hour, minute, second, microsecond, offset⟩

/-- A number padded with zeros to a width. -/
def padZero (width n : Nat) : String :=
  let s := toString n
  String.ofList (List.replicate (width - s.length) '0') ++ s

def Date.text (d : Date) : String :=
  padZero 4 d.year ++ "-" ++ padZero 2 d.month ++ "-" ++ padZero 2 d.day

/-- The date as a message shows it inside another value. -/
def Date.quoted (d : Date) : String :=
  "datetime.date(" ++ toString d.year ++ ", " ++ toString d.month ++ ", " ++ toString d.day ++ ")"

/-- The distance from universal time in hours and minutes, and seconds if there are any. -/
def offsetText (seconds : Int) : String :=
  let n := seconds.natAbs
  (if seconds < 0 then "-" else "+") ++ padZero 2 (n / 3600) ++ ":" ++ padZero 2 (n / 60 % 60) ++
    (if n % 60 = 0 then "" else ":" ++ padZero 2 (n % 60))

def Moment.text (t : Moment) : String :=
  t.date.text ++ " " ++ padZero 2 t.hour ++ ":" ++ padZero 2 t.minute ++ ":" ++
    padZero 2 t.second ++ (if t.microsecond = 0 then "" else "." ++ padZero 6 t.microsecond) ++
    (t.offset.map offsetText).getD ""

/-- The moment as a message shows it inside another value. -/
def Moment.quoted (t : Moment) : String :=
  let d := t.date
  let tail := if t.microsecond ≠ 0 then [t.second, t.microsecond]
    else if t.second ≠ 0 then [t.second] else []
  let fields := ([d.year, d.month, d.day, t.hour, t.minute] ++ tail).map toString
  let zone := match t.offset with
    | none => []
    | some 0 => ["tzinfo=datetime.timezone.utc"]
    | some s => ["tzinfo=datetime.timezone(" ++ spanText s ++ ")"]
  "datetime.datetime(" ++ ", ".intercalate (fields ++ zone) ++ ")"

/-- The days before a year, counted from the first day of year 1. -/
def daysBeforeYear (y : Nat) : Nat :=
  let p := y - 1
  p * 365 + p / 4 - p / 100 + p / 400

/-- The place of a date in the row of all days. -/
def Date.ordinal (d : Date) : Nat :=
  (List.range' 1 (d.month - 1)).foldl (fun n m => n + daysInMonth d.year m)
    (daysBeforeYear d.year) + d.day

/-- The microseconds from the start of the calendar, by the clock on the wall. -/
def Moment.wallMicroseconds (t : Moment) : Int :=
  ((t.date.ordinal * 86400 + t.hour * 3600 + t.minute * 60 + t.second : Nat) : Int) * 1000000 +
    t.microsecond

/-- Two moments are the same if both or neither know their distance from universal time and they
agree once it is taken off. -/
def Moment.same (a b : Moment) : Bool :=
  match a.offset, b.offset with
  | none, none => a == b
  | some s, some t => a.wallMicroseconds - s * 1000000 == b.wallMicroseconds - t * 1000000
  | _, _ => false

/-! ## Lemmas -/

/-- A checked date lies in the calendar. -/
theorem Date.check_valid (y m d : Nat) (x : Date) (h : Date.check y m d = .ok x) :
    x = ⟨y, m, d⟩ ∧ 1 ≤ y ∧ y ≤ 9999 ∧ 1 ≤ m ∧ m ≤ 12 ∧ 1 ≤ d ∧ d ≤ daysInMonth y m := by
  unfold Date.check at h
  split at h
  · simp at h
  · split at h
    · simp at h
    · split at h
      · simp at h
      · simp only [Except.ok.injEq] at h
        subst h
        exact ⟨rfl, by omega, by omega, by omega, by omega, by omega, by omega⟩

theorem Moment.same_self (t : Moment) : t.same t = true := by
  unfold Moment.same
  cases t.offset <;> simp

end TopologySubmission
