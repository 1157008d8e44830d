/-! # Moments

A moment is a day of the calendar, alone or with a time of day, which may tell how far it is ahead
of universal time. `Moment.read?` takes a text apart into its numbers, of which not all make up a
moment; `Fields.moment` says which do and what is wrong with the others.
-/

set_option autoImplicit false

namespace ModuleResolution

structure TimeOfDay where
  hour : Nat
  minute : Nat
  second : Nat
  microsecond : Nat
  /-- How many minutes it is ahead of universal time, if that is told. -/
  ahead : Option Int
  deriving DecidableEq, Repr

structure Moment where
  year : Nat
  month : Nat
  day : Nat
  time : Option TimeOfDay
  deriving DecidableEq, Repr

namespace Moment

abbrev Fields := Moment

inductive Fault where
  | year (value : Nat)
  | month
  | day
  | hour
  | minute
  | second
  /-- A difference of a day or more, in minutes. -/
  | ahead (minutes : Int)
  deriving DecidableEq, Repr

/-- The wording for a length of time in minutes, as days and seconds. -/
def lengthText (minutes : Int) : String :=
  let parts := [("days=", minutes / 1440), ("seconds=", 60 * (minutes % 1440))]
  "datetime.timedelta(" ++ ", ".intercalate ((parts.filter (·.2 != 0)).map fun part =>
    part.1 ++ toString part.2) ++ ")"

def Fault.message : Fault → String
  | .year value => "year " ++ toString value ++ " is out of range"
  | .month => "month must be in 1..12"
  | .day => "day is out of range for month"
  | .hour => "hour must be in 0..23"
  | .minute => "minute must be in 0..59"
  | .second => "second must be in 0..59"
  | .ahead minutes =>
    "offset must be a timedelta strictly between -timedelta(hours=24) and timedelta(hours=24), not "
      ++ lengthText minutes ++ "."

def isLeap (year : Nat) : Bool := year % 4 == 0 && (year % 100 != 0 || year % 400 == 0)

def daysIn (year month : Nat) : Nat :=
  if month = 2 then (if isLeap year then 29 else 28)
  else if [4, 6, 9, 11].contains month then 30
  else 31

/-- The first fault of some numbers; a difference of a day or more comes before all else. -/
def fault? (fields : Fields) : Option Fault :=
  let time? (wrong : TimeOfDay → Bool) : Bool := fields.time.any wrong
  match fields.time.bind (·.ahead) with
  | some minutes =>
    if minutes.natAbs < 1440 then dayFault? fields time? else some (.ahead minutes)
  | none => dayFault? fields time?
where
  /-- The first fault of the day and then of the time. -/
  dayFault? (fields : Fields) (time? : (TimeOfDay → Bool) → Bool) : Option Fault :=
    if fields.year = 0 then some (.year fields.year)
    else if fields.month = 0 || 12 < fields.month then some .month
    else if fields.day = 0 || daysIn fields.year fields.month < fields.day then some .day
    else if time? (23 < ·.hour) then some .hour
    else if time? (59 < ·.minute) then some .minute
    else if time? (59 < ·.second) then some .second
    else none

def ofFields (fields : Fields) : Except Fault Moment :=
  match fault? fields with
  | some fault => .error fault
  | none => .ok fields

/-! ## Reading -/

def number (digits : List Char) : Nat :=
  digits.foldl (fun total c => 10 * total + (c.toNat - 48)) 0

/-- The number that between `least` and `most` digits write at the start of a text, with the
rest. -/
def takeNumber? (least most : Nat) (cs : List Char) : Option (Nat × List Char) :=
  let digits := (cs.take most).takeWhile Char.isDigit
  if least ≤ digits.length then some (number digits, cs.drop digits.length) else none

def after? (expected : Char) : List Char → Option (List Char)
  | c :: rest => if c = expected then some rest else none
  | [] => none

def takeDay? (cs : List Char) : Option (Fields × List Char) := do
  let (year, cs) ← takeNumber? 4 4 cs
  let (month, cs) ← takeNumber? 1 2 (← after? '-' cs)
  let (day, cs) ← takeNumber? 1 2 (← after? '-' cs)
  return (⟨year, month, day, none⟩, cs)

/-- What stands between a day and its time: a letter or blanks. -/
def afterGap? (cs : List Char) : Option (List Char) :=
  match cs with
  | 'T' :: rest => some rest
  | 't' :: rest => some rest
  | _ =>
    let blanks := cs.takeWhile fun c => c == ' ' || c == '\t'
    if blanks.isEmpty then none else some (cs.drop blanks.length)

/-- Millionths of a second, of which the first six places count. -/
def microseconds (places : List Char) : Nat :=
  number ((places ++ List.replicate 6 '0').take 6)

/-- How far a time is ahead: nothing, or a `Z` or a signed difference, to the end of the text. -/
def readAhead? (cs : List Char) : Option (Option Int) :=
  match cs.dropWhile fun c => c == ' ' || c == '\t' with
  | [] => if cs.isEmpty then some none else none
  | ['Z'] => some (some 0)
  | sign :: rest => do
    let (hours, rest) ← takeNumber? 1 2 rest
    let (minutes, rest) ←
      if rest.isEmpty then some (0, []) else takeNumber? 2 2 (← after? ':' rest)
    let ahead : Int := 60 * hours + minutes
    if !rest.isEmpty then none
    else if sign = '+' then some (some ahead)
    else if sign = '-' then some (some (-ahead))
    else none

def readTime? (cs : List Char) : Option TimeOfDay := do
  let (hour, cs) ← takeNumber? 1 2 cs
  let (minute, cs) ← takeNumber? 2 2 (← after? ':' cs)
  let (second, cs) ← takeNumber? 2 2 (← after? ':' cs)
  let (places, cs) := match cs with
    | '.' :: rest => (rest.takeWhile Char.isDigit, rest.dropWhile Char.isDigit)
    | cs => ([], cs)
  return ⟨hour, minute, second, microseconds places, ← readAhead? cs⟩

def read? (cs : List Char) : Option Fields := do
  let (day, rest) ← takeDay? cs
  if rest.isEmpty then return day
  else return { day with time := some (← readTime? (← afterGap? rest)) }

/-! ## Writing -/

def padded (width n : Nat) : String :=
  let digits := toString n
  String.ofList (List.replicate (width - digits.length) '0') ++ digits

def writeAhead (ahead : Int) : String :=
  (if ahead < 0 then "-" else "+") ++ padded 2 (ahead.natAbs / 60) ++ ":"
    ++ padded 2 (ahead.natAbs % 60)

/-- A time of day; millionths of a second are left out if there are none. -/
def writeTime (time : TimeOfDay) : String :=
  padded 2 time.hour ++ ":" ++ padded 2 time.minute ++ ":" ++ padded 2 time.second
    ++ (if time.microsecond = 0 then "" else "." ++ padded 6 time.microsecond)
    ++ match time.ahead with
      | some ahead => writeAhead ahead
      | none => ""

def write (moment : Moment) : String :=
  padded 4 moment.year ++ "-" ++ padded 2 moment.month ++ "-" ++ padded 2 moment.day
    ++ match moment.time with
      | some time => " " ++ writeTime time
      | none => ""

/-- How far a time is ahead, as the shown form of a moment has it. -/
def shownAhead (ahead : Int) : String :=
  "tzinfo=datetime.timezone" ++ (if ahead = 0 then ".utc" else "(" ++ lengthText ahead ++ ")")

/-- The shown form of a moment, which tells its type. Seconds are left out if there are none, and
no millionths of them. -/
def shown (moment : Moment) : String :=
  let day := [moment.year, moment.month, moment.day]
  match moment.time with
  | none => "datetime.date(" ++ ", ".intercalate (day.map toString) ++ ")"
  | some time =>
    let places :=
      if time.microsecond != 0 then [time.second, time.microsecond]
      else if time.second != 0 then [time.second]
      else []
    let numbers := (day ++ [time.hour, time.minute] ++ places).map toString
    "datetime.datetime("
      ++ ", ".intercalate (numbers ++ (time.ahead.map shownAhead).toList) ++ ")"

/-! ## Order -/

def daysBefore (year : Nat) : Nat :=
  365 * (year - 1) + (year - 1) / 4 - (year - 1) / 100 + (year - 1) / 400

/-- A moment in millionths of a second, of universal time where its distance from that is told. -/
def instant (moment : Moment) : Int :=
  let months := (List.range (moment.month - 1)).map fun month => daysIn moment.year (month + 1)
  let days := months.foldl (· + ·) (daysBefore moment.year) + moment.day
  match moment.time with
  | none => 86400000000 * (days : Int)
  | some time =>
    let minutes : Int := 1440 * (days : Int) + 60 * time.hour + time.minute - time.ahead.getD 0
    1000000 * (60 * minutes + time.second) + time.microsecond

/-- The moment tells how far its time is ahead of universal time. -/
def isAware (moment : Moment) : Bool := (moment.time.bind (·.ahead)).isSome

end Moment

end ModuleResolution
