import BoundedWait.Decimal.Reading
import BoundedWait.Value.Basic

namespace BoundedWait

structure TimeOfDay where
  hour     : Nat
  minute   : Nat
  second   : Nat
  micro    : Nat
  -- Minutes ahead of universal time, if the time says so.
  distance : Option Int
deriving DecidableEq, Repr

structure Moment where
  year  : Nat
  month : Nat
  day   : Nat
  time  : Option TimeOfDay
deriving DecidableEq, Repr

namespace Moment

inductive Error where
  | year (y : Nat)
  | month
  | day
  | hour
  | minute
  | second
  | distance (minutes : Int)
deriving DecidableEq, Repr

def isLeapYear (y : Nat) : Bool :=
  y % 4 == 0 && (y % 100 != 0 || y % 400 == 0)

def monthLength (y m : Nat) : Nat :=
  if m == 2 then (if isLeapYear y then 29 else 28)
  else if m == 4 || m == 6 || m == 9 || m == 11 then 30
  else 31

def checkTime (t : TimeOfDay) : Except Error Unit := do
  if 23 < t.hour then throw .hour
  if 59 < t.minute then throw .minute
  if 59 < t.second then throw .second

def checkDistance (t : TimeOfDay) : Except Error Unit :=
  match t.distance with
  | some d => if d ≤ -1440 || 1440 ≤ d then .error (.distance d) else .ok ()
  | none   => .ok ()

def checkDate (m : Moment) : Except Error Unit := do
  if m.year == 0 then throw (.year m.year)
  if m.month == 0 || 12 < m.month then throw .month
  if m.day == 0 || monthLength m.year m.month < m.day then throw .day

-- Whether there is such a moment. The distance from universal time comes first, then the date.
def check (m : Moment) : Except Error Unit := do
  if let some t := m.time then checkDistance t
  checkDate m
  if let some t := m.time then checkTime t

theorem check_leapDay : check ⟨2024, 2, 29, none⟩ = .ok () := rfl

theorem check_noLeapDay : check ⟨1900, 2, 29, none⟩ = .error .day := rfl

def number? (least most : Nat) (cs : List Char) : Option (Nat × List Char) :=
  let digits := (cs.take most).takeWhile Char.isDigit
  if least ≤ digits.length then some (Decimal.ofDigits digits, cs.drop digits.length) else none

def mark? (c : Char) : List Char → Option (List Char)
  | d :: rest => if d == c then some rest else none
  | []        => none

def isGap (c : Char) : Bool :=
  c == ' ' || c == '\t'

def gap? : List Char → Option (List Char)
  | c :: rest =>
    if c == 'T' || c == 't' then some rest
    else if isGap c then some (rest.dropWhile isGap)
    else none
  | [] => none

def fraction : List Char → Nat × List Char
  | '.' :: rest =>
    let digits := rest.takeWhile Char.isDigit
    (Decimal.ofDigits ((digits ++ List.replicate 6 '0').take 6), rest.drop digits.length)
  | cs => (0, cs)

def hoursAndMinutes? (cs : List Char) : Option Nat := do
  let (hours, rest) ← number? 1 2 cs
  if rest.isEmpty then return hours * 60
  let (minutes, rest) ← number? 2 2 (← mark? ':' rest)
  if rest.isEmpty then return hours * 60 + minutes else none

def distance? (cs : List Char) : Option (Option Int) :=
  if cs.isEmpty then some none
  else
    match cs.dropWhile isGap with
    | ['Z']       => some (some 0)
    | '+' :: rest => (hoursAndMinutes? rest).map fun d => some (d : Int)
    | '-' :: rest => (hoursAndMinutes? rest).map fun d => some (-d : Int)
    | _           => none

def time? (cs : List Char) : Option TimeOfDay := do
  let (hour, rest)   ← number? 1 2 cs
  let (minute, rest) ← number? 2 2 (← mark? ':' rest)
  let (second, rest) ← number? 2 2 (← mark? ':' rest)
  let (micro, rest)  := fraction rest
  return ⟨hour, minute, second, micro, ← distance? rest⟩

def ofChars? (cs : List Char) : Option Moment := do
  let (year, rest)  ← number? 4 4 cs
  let (month, rest) ← number? 1 2 (← mark? '-' rest)
  let (day, rest)   ← number? 1 2 (← mark? '-' rest)
  if rest.isEmpty then return ⟨year, month, day, none⟩
  return ⟨year, month, day, some (← time? (← gap? rest))⟩

-- Whether a text is a moment by its form alone: a date by itself has two digits each for the month
-- and the day.
def isWritten (cs : List Char) : Bool :=
  match ofChars? cs with
  | some m => m.time.isSome || cs.length == 10
  | none   => false

def dayNumber (m : Moment) : Nat :=
  let y := m.year - 1
  let earlier := 365 * y + y / 4 - y / 100 + y / 400
  (List.range m.month).foldl
    (fun n k => if k == 0 then n else n + monthLength m.year k) earlier + m.day

def microNumber (m : Moment) (t : TimeOfDay) : Nat :=
  (((dayNumber m * 24 + t.hour) * 60 + t.minute) * 60 + t.second) * 1000000 + t.micro

-- The same number for moments that are one value, and different ones for others.
def identity (m : Moment) : Nat :=
  match m.time with
  | none   => 4 * dayNumber m + 1
  | some t =>
    match t.distance with
    | none   => 4 * microNumber m t + 2
    | some d => 4 * ((microNumber m t : Int) - d * 60000000).toNat + 3

-- Minutes as days and seconds, of which the seconds are never negative.
def showMinutes (minutes : Int) : String :=
  let days    := minutes / 1440
  let seconds := minutes % 1440 * 60
  let parts   :=
    (if days == 0 then [] else ["days=" ++ toString days]) ++
      (if seconds == 0 then [] else ["seconds=" ++ toString seconds])
  "datetime.timedelta(" ++ (if parts.isEmpty then "0" else ", ".intercalate parts) ++ ")"

def Error.message : Error → String
  | year y => "year " ++ toString y ++ " is out of range"
  | month  => "month must be in 1..12"
  | day    => "day is out of range for month"
  | hour   => "hour must be in 0..23"
  | minute => "minute must be in 0..59"
  | second => "second must be in 0..59"
  | distance minutes =>
    "offset must be a timedelta strictly between -timedelta(hours=24) and timedelta(hours=24), not "
      ++ showMinutes minutes ++ "."

def showDistance : Option Int → List String
  | none   => []
  | some d =>
    let zone :=
      if d == 0 then "datetime.timezone.utc" else "datetime.timezone(" ++ showMinutes d ++ ")"
    ["tzinfo=" ++ zone]

def timeNumbers (t : TimeOfDay) : List Nat :=
  [t.hour, t.minute] ++
    if t.micro != 0 then [t.second, t.micro]
    else if t.second != 0 then [t.second]
    else []

def className (m : Moment) : String :=
  if m.time.isSome then "datetime.datetime" else "datetime.date"

def shown (m : Moment) : String :=
  let numbers := [m.year, m.month, m.day] ++ (m.time.map timeNumbers).getD []
  let parts   := numbers.map toString ++ (m.time.map fun t => showDistance t.distance).getD []
  m.className ++ "(" ++ ", ".intercalate parts ++ ")"

def toValue (m : Moment) : Value :=
  .object (.mk 0 m.className (.ok m.shown) (.likeness m.identity (.ok m.identity)) (.ok true))

end Moment

end BoundedWait
