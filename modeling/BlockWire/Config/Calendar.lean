/- # Dates and moments

What a timestamp in a configuration file denotes, in two written forms: `text` is
the one a reader of calendars expects, `display` names the parts one by one and is
used where a value is shown inside another. -/
import BlockWire.Text.CodePoint

namespace BlockWire

set_option autoImplicit false

structure Date where
  year : Nat
  month : Nat
  day : Nat
deriving DecidableEq

/-- `zone` is the offset in minutes, if the moment has one. -/
structure Moment where
  date : Date
  hour : Nat
  minute : Nat
  second : Nat
  micros : Nat
  zone : Option Int
deriving DecidableEq

/-- Why numbers are no date, no time of day or no offset. -/
inductive CalendarProblem where
  | year (found : Nat)
  | month
  | day
  | hour
  | minute
  | second
  | zone (minutes : Int)
deriving DecidableEq

/-- A span of minutes as whole days and seconds, the seconds never negative. -/
def spanDisplay (minutes : Int) : Text :=
  let seconds := Text.ofInt (minutes * 60 % 86400)
  let days := minutes * 60 / 86400
  let parts : Text :=
    if days = 0 then "seconds=" ++ seconds
    else if minutes * 60 % 86400 = 0 then "days=" ++ Text.ofInt days
    else "days=" ++ Text.ofInt days ++ ", seconds=" ++ seconds
  "datetime.timedelta(" ++ parts ++ ")"

def CalendarProblem.message : CalendarProblem → Text
  | .year found => "year " ++ Text.ofNat found ++ " is out of range"
  | .month => "month must be in 1..12"
  | .day => "day is out of range for month"
  | .hour => "hour must be in 0..23"
  | .minute => "minute must be in 0..59"
  | .second => "second must be in 0..59"
  | .zone minutes =>
      "offset must be a timedelta strictly between -timedelta(hours=24) and " ++
        "timedelta(hours=24), not " ++ spanDisplay minutes ++ "."

namespace Date

def isLeap (year : Nat) : Bool := year % 4 == 0 && (year % 100 != 0 || year % 400 == 0)

def daysIn (year month : Nat) : Nat :=
  if month = 2 then (if isLeap year then 29 else 28)
  else if month = 4 ∨ month = 6 ∨ month = 9 ∨ month = 11 then 30
  else 31

/-- What is wrong with a date, the year before the month before the day. -/
def problem? (d : Date) : Option CalendarProblem :=
  if d.year < 1 then some (.year d.year)
  else if d.month < 1 ∨ 12 < d.month then some .month
  else if d.day < 1 ∨ daysIn d.year d.month < d.day then some .day
  else none

/-- How many days lie between a fixed day and this one. -/
def dayNumber (d : Date) : Nat :=
  let years := d.year - 1
  let days := (List.range (d.month - 1)).foldl (fun n i => n + daysIn d.year (i + 1)) d.day
  years * 365 + years / 4 - years / 100 + years / 400 + days

def text (d : Date) : Text :=
  Text.padded 4 d.year ++ "-" ++ Text.padded 2 d.month ++ "-" ++ Text.padded 2 d.day

def parts (d : Date) : List Nat := [d.year, d.month, d.day]

def display (d : Date) : Text :=
  "datetime.date(" ++ Text.join ", " (d.parts.map Text.ofNat) ++ ")"

end Date

namespace Moment

/-- Millionths of a second from a fixed moment on, where the offset is known. -/
def instant? (m : Moment) : Option Int :=
  m.zone.map fun zone =>
    let minutes := (m.date.dayNumber * 24 + m.hour : Int) * 60 + m.minute - zone
    (minutes * 60 + m.second) * 1000000 + m.micros

/-- An offset is less than a day. -/
def zoneProblem? : Option Int → Option CalendarProblem
  | some minutes => if 1440 ≤ minutes.natAbs then some (.zone minutes) else none
  | none => none

def timeProblem? (m : Moment) : Option CalendarProblem :=
  if 23 < m.hour then some .hour
  else if 59 < m.minute then some .minute
  else if 59 < m.second then some .second
  else none

/-- What is wrong with a moment, the offset before the date before the time of day. -/
def problem? (m : Moment) : Option CalendarProblem :=
  (zoneProblem? m.zone).or (m.date.problem?.or (timeProblem? m))

def zoneText (minutes : Int) : Text :=
  let sign : Text := if minutes < 0 then "-" else "+"
  sign ++ Text.padded 2 (minutes.natAbs / 60) ++ ":" ++ Text.padded 2 (minutes.natAbs % 60)

def text (m : Moment) : Text :=
  let fraction : Text := if m.micros = 0 then "" else "." ++ Text.padded 6 m.micros
  let zone : Text := match m.zone with
    | some minutes => zoneText minutes
    | none => ""
  m.date.text ++ " " ++ Text.padded 2 m.hour ++ ":" ++ Text.padded 2 m.minute ++ ":" ++
    Text.padded 2 m.second ++ fraction ++ zone

/-- Trailing zeros among the parts are left out, down to the minute. -/
def parts (m : Moment) : List Nat :=
  let whole := m.date.parts ++ [m.hour, m.minute]
  if m.micros ≠ 0 then whole ++ [m.second, m.micros]
  else if m.second ≠ 0 then whole ++ [m.second]
  else whole

def zoneDisplay (minutes : Int) : Text :=
  if minutes = 0 then "datetime.timezone.utc"
  else "datetime.timezone(" ++ spanDisplay minutes ++ ")"

def display (m : Moment) : Text :=
  let zone : Text := match m.zone with
    | some minutes => ", tzinfo=" ++ zoneDisplay minutes
    | none => ""
  "datetime.datetime(" ++ Text.join ", " (m.parts.map Text.ofNat) ++ zone ++ ")"

end Moment

end BlockWire
