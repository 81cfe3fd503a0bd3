import HeaderBindings.Text.Digit

/-!
# Moments

A moment is a day, or a time on a day with microseconds and, if it is known, the distance to
universal time. It is shown in the order of its parts, and in messages by its parts.
-/
namespace HeaderBindings

/-- A time of day; `zone` is the distance to universal time in seconds. -/
structure Clock where
  hour : Nat
  minute : Nat
  second : Nat
  micro : Nat
  zone : Option Int
deriving DecidableEq, Repr

structure Moment where
  year : Nat
  month : Nat
  day : Nat
  clock : Option Clock
deriving DecidableEq, Repr

namespace Moment

def isLeapYear (y : Nat) : Bool := y % 4 = 0 && (y % 100 ≠ 0 || y % 400 = 0)

def daysIn (year month : Nat) : Nat :=
  if month = 2 then (if isLeapYear year then 29 else 28)
  else if [4, 6, 9, 11].contains month then 30
  else 31

def secondsPerDay : Int := 86400

/-- The parts of a span of seconds: days, which may be negative, and seconds of a day. -/
def spanParts (z : Int) : List Text :=
  let days := z.fdiv secondsPerDay
  let seconds := z.fmod secondsPerDay
  (if days = 0 then [] else ["days=".toList ++ Text.ofInt days]) ++
    (if seconds = 0 then [] else ["seconds=".toList ++ Text.ofInt seconds])

/-- A span of seconds as it is shown in messages. -/
def writeSpan (z : Int) : Text :=
  "datetime.timedelta(".toList ++ Text.join [',', ' '] (spanParts z) ++ [')']

/-- The distance to universal time is less than a day. -/
def zoneFault? (z : Int) : Option String :=
  if z.natAbs < secondsPerDay.natAbs then none
  else some <| "offset must be a timedelta strictly between -timedelta(hours=24) and " ++
    "timedelta(hours=24), not " ++ String.ofList (writeSpan z) ++ "."

/-- What is wrong with a moment that does not exist. -/
def fault? (m : Moment) : Option String :=
  (m.clock.bind fun c => c.zone.bind zoneFault?).or <|
  if m.year = 0 then some "year 0 is out of range"
  else if m.month = 0 ∨ 12 < m.month then some "month must be in 1..12"
  else if m.day = 0 ∨ daysIn m.year m.month < m.day then some "day is out of range for month"
  else m.clock.bind fun c =>
    if 23 < c.hour then some "hour must be in 0..23"
    else if 59 < c.minute then some "minute must be in 0..59"
    else if 59 < c.second then some "second must be in 0..59"
    else none

def kindName (m : Moment) : String := if m.clock.isSome then "datetime" else "date"

/-- A number with zeros in front. -/
def padded (width n : Nat) : Text :=
  let digits := Text.ofNat n
  List.replicate (width - digits.length) '0' ++ digits

def showZone (z : Int) : Text :=
  let n := z.natAbs
  (if z < 0 then '-' else '+') :: padded 2 (n / 3600) ++ ':' :: padded 2 (n / 60 % 60) ++
    (if n % 60 = 0 then [] else ':' :: padded 2 (n % 60))

def showClock (c : Clock) : Text :=
  padded 2 c.hour ++ ':' :: padded 2 c.minute ++ ':' :: padded 2 c.second ++
    (if c.micro = 0 then [] else '.' :: padded 6 c.micro) ++ (c.zone.map showZone).getD []

/-- The moment as it is inserted in a text. -/
def toText (m : Moment) : Text :=
  padded 4 m.year ++ '-' :: padded 2 m.month ++ '-' :: padded 2 m.day ++
    (m.clock.map fun c => ' ' :: showClock c).getD []

def writeZone (z : Int) : Text :=
  if z = 0 then "datetime.timezone.utc".toList
  else "datetime.timezone(".toList ++ writeSpan z ++ [')']

/-- The parts of a time; seconds and microseconds are left out when nothing follows that is not
zero. -/
def clockParts (c : Clock) : List Text :=
  let parts := [c.hour, c.minute] ++
    (if c.second = 0 ∧ c.micro = 0 then [] else if c.micro = 0 then [c.second]
      else [c.second, c.micro])
  parts.map Text.ofNat ++ (c.zone.map fun z => "tzinfo=".toList ++ writeZone z).toList

/-- The moment as it is shown in messages. -/
def write (m : Moment) : Text :=
  let parts := [m.year, m.month, m.day].map Text.ofNat ++ (m.clock.map clockParts).getD []
  "datetime.".toList ++ m.kindName.toList ++ '(' :: Text.join [',', ' '] parts ++ [')']

/-! ### Reading -/

/-- A number of at least `least` and at most `most` digits, and what follows it. -/
def number? (least most : Nat) (t : Text) : Option (Nat × Text) :=
  let ds := (t.take most).takeWhile Char.isDigit
  if ds.length < least then none
  else some (Text.ofDigits 10 (ds.map fun d => d.toNat - 48), t.drop ds.length)

def after? (c : Char) (t : Text) : Option Text := Text.dropPrefix? [c] t

def isBlank (c : Char) : Bool := c = ' ' || c = '\t'

/-- The microseconds of the digits after a point. -/
def microOf (digits : Text) : Nat :=
  let ds := (digits.take 6).map fun d => d.toNat - 48
  Text.ofDigits 10 (ds ++ List.replicate (6 - ds.length) 0)

/-- A distance to universal time, up to the end of the text. -/
def zone? (t : Text) : Option (Option Int) :=
  match t, t.dropWhile isBlank with
  | [], _ => some none
  | _, ['Z'] => some (some 0)
  | _, sign :: r => do
    let (hours, r) ← number? 1 2 r
    let (minutes, r) ← match r with
      | ':' :: r => number? 2 2 r
      | r => some (0, r)
    let n : Int := (hours * 3600 + minutes * 60 : Nat)
    if r ≠ [] then none
    else if sign = '+' then some (some n)
    else if sign = '-' then some (some (-n))
    else none
  | _, [] => none

/-- A time of day, up to the end of the text. -/
def clock? (t : Text) : Option Clock := do
  let (hour, r) ← number? 1 2 t
  let (minute, r) ← number? 2 2 (← after? ':' r)
  let (second, r) ← number? 2 2 (← after? ':' r)
  let (places, r) := match r with
    | '.' :: r => (r.takeWhile Char.isDigit, r.dropWhile Char.isDigit)
    | r => ([], r)
  some ⟨hour, minute, second, microOf places, ← zone? r⟩

/-- The moment that a text denotes. A day alone has two digits for its month and two for its day. -/
def ofText? (t : Text) : Option Moment := do
  let (year, r) ← number? 4 4 t
  let (month, r) ← number? 1 2 (← after? '-' r)
  let (day, r) ← number? 1 2 (← after? '-' r)
  match r with
  | [] => if t.length = 10 then some ⟨year, month, day, none⟩ else none
  | c :: s =>
    let s ← if c = 'T' ∨ c = 't' then some s else if isBlank c then some (s.dropWhile isBlank) else none
    some ⟨year, month, day, some (← clock? s)⟩

end Moment
end HeaderBindings
