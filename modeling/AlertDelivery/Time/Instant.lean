import AlertDelivery.Value

/-!
# Instants

A moment of the years 1 to 9999 in whole microseconds, without a time
zone. Shifting one is partial: it fails outside those years. The text is
`2026-03-01T12:00:00`, followed by six digits only when there is a
fraction of a second.
-/

namespace AlertDelivery

def Instant.limit : Nat := 3652059 * 86400000000

/-- Microseconds since the start of the year 1. -/
structure Instant where
  micros : Nat
  inRange : micros < Instant.limit
deriving DecidableEq

namespace Instant

instance : LE Instant := ⟨fun a b => a.micros ≤ b.micros⟩
instance : LT Instant := ⟨fun a b => a.micros < b.micros⟩
instance (a b : Instant) : Decidable (a ≤ b) := inferInstanceAs (Decidable (a.micros ≤ b.micros))
instance (a b : Instant) : Decidable (a < b) := inferInstanceAs (Decidable (a.micros < b.micros))

instance : Inhabited Instant := ⟨0, by decide⟩

def first : Instant := ⟨0, by decide⟩

theorem one_lt_limit : 1 < limit := by decide

theorem two_lt_limit : 2 < limit := by decide

def ofMicros? (n : Int) : Option Instant :=
  if h : 0 ≤ n ∧ n.toNat < limit then some ⟨n.toNat, h.2⟩ else none

def shift? (t : Instant) (micros : Int) : Option Instant := ofMicros? (t.micros + micros)

def microsPerMinute : Int := 60000000
def microsPerHour : Int := 3600000000
def microsPerDay : Int := 86400000000

def maxDays : Int := 999999999

def daysBefore? (t : Instant) (days : Int) : Option Instant :=
  if maxDays < days ∨ days < -maxDays then none else t.shift? (-(days * microsPerDay))

def isLeap (year : Nat) : Bool := year % 4 == 0 && (year % 100 != 0 || year % 400 == 0)

def monthDays (year month : Nat) : Nat :=
  match month with
  | 2 => if isLeap year then 29 else 28
  | 4 | 6 | 9 | 11 => 30
  | _ => 31

def daysBeforeYear (year : Nat) : Nat :=
  let past := year - 1
  365 * past + past / 4 - past / 100 + past / 400

def daysBeforeMonth (year : Nat) : Nat → Nat
  | 0 | 1 => 0
  | month + 2 => daysBeforeMonth year (month + 1) + monthDays year (month + 1)

def ofParts? (year month day hour minute second micro : Nat) : Option Instant :=
  if 1 ≤ year ∧ year ≤ 9999 ∧ 1 ≤ month ∧ month ≤ 12 ∧ 1 ≤ day ∧ day ≤ monthDays year month
      ∧ hour < 24 ∧ minute < 60 ∧ second < 60 ∧ micro < 1000000 then
    let days := daysBeforeYear year + daysBeforeMonth year month + (day - 1)
    ofMicros? ((((days * 24 + hour) * 60 + minute) * 60 + second) * 1000000 + micro : Nat)
  else none

/-- The year of a day: the first guess is never late by more than one. -/
def yearOf (days : Nat) : Nat :=
  let guess := days * 400 / 146097 + 1
  if daysBeforeYear (guess + 1) ≤ days then guess + 1
  else if days < daysBeforeYear guess then guess - 1
  else guess

/-- The year of any number of microseconds since the start of the year 1,
within the range or not: the calendar repeats after 400 years. -/
def yearAt (micros : Int) : Int :=
  let days := micros / microsPerDay
  400 * (days / 146097) + yearOf (days % 146097).toNat

/-- The month of a day of a year, and the day of that month from 0. -/
def monthOf (year : Nat) : Nat → Nat → Nat → Nat × Nat
  | 0, month, day => (month, day)
  | fuel + 1, month, day =>
    if day < monthDays year month then (month, day)
    else monthOf year fuel (month + 1) (day - monthDays year month)

def padded (width n : Nat) : String :=
  let digits := toString n
  String.ofList (List.replicate (width - digits.length) '0') ++ digits

def dateText (t : Instant) : String :=
  let days := t.micros / 86400000000
  let year := yearOf days
  let (month, day) := monthOf year 12 1 (days - daysBeforeYear year)
  padded 4 year ++ "-" ++ padded 2 month ++ "-" ++ padded 2 (day + 1)

def clockText (t : Instant) : String :=
  let seconds := t.micros / 1000000 % 86400
  padded 2 (seconds / 3600) ++ ":" ++ padded 2 (seconds / 60 % 60) ++ ":" ++ padded 2 (seconds % 60)

def text (t : Instant) : String :=
  let fraction := t.micros % 1000000
  t.dateText ++ "T" ++ t.clockText ++ (if fraction = 0 then "" else "." ++ padded 6 fraction)

def toValue (t : Instant) : Value := .text t.text

def takeNumber (width : Nat) (cs : List Char) : Option (Nat × List Char) :=
  let digits := cs.take width
  if digits.length = width ∧ digits.all Char.isDigit then
    some (digits.foldl (fun n d => 10 * n + (d.toNat - 48)) 0, cs.drop width)
  else none

def takeMark (mark : Char) : List Char → Option (List Char)
  | c :: rest => if c = mark then some rest else none
  | [] => none

/-- The fraction of a second: nothing, or a point and digits, of which the
first six count. -/
def takeFraction : List Char → Option Nat
  | [] => some 0
  | '.' :: rest =>
    let digits := rest.take 6
    if rest.isEmpty || !rest.all Char.isDigit then none
    else (takeNumber digits.length digits).map fun (n, _) => n * Nat.pow 10 (6 - digits.length)
  | _ => none

def read? (s : String) : Option Instant := do
  let (year, cs) ← takeNumber 4 s.toList
  let cs ← takeMark '-' cs
  let (month, cs) ← takeNumber 2 cs
  let cs ← takeMark '-' cs
  let (day, cs) ← takeNumber 2 cs
  if cs.isEmpty then ofParts? year month day 0 0 0 0
  else
    let cs ← takeMark 'T' cs
    let (hour, cs) ← takeNumber 2 cs
    let cs ← takeMark ':' cs
    let (minute, cs) ← takeNumber 2 cs
    let cs ← takeMark ':' cs
    let (second, cs) ← takeNumber 2 cs
    let micro ← takeFraction cs
    ofParts? year month day hour minute second micro

def epochMicros : Int := 62135596800000000

/-- Noon of 1 March 2026, where every clock starts. -/
def clockStart : Instant := ⟨63907963200000000, by decide⟩

end Instant

end AlertDelivery
