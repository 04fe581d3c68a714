import PushRelay.Decimal.Layout

/-!
# PushRelay.Calendar

Instants in the Gregorian calendar, extended to all years, and their text
after RFC 3339 in universal time.

Days are counted in eras of 400 years, each of 146097 days, from the first
of March of the year 0, so that the leap day is the last day of a year.
-/

namespace PushRelay

namespace Calendar

/-- A day of the calendar. -/
structure Date where
  year : Int
  month : Nat
  day : Nat
deriving DecidableEq, Repr

/-- The date `days` days after the first of January 1970. -/
def dateOfDay (days : Int) : Date :=
  let shifted := days + 719468
  let era := shifted.fdiv 146097
  let ofEra := (shifted.fmod 146097).toNat
  let yearOfEra := (ofEra - ofEra / 1460 + ofEra / 36524 - ofEra / 146096) / 365
  let dayOfYear := ofEra - (365 * yearOfEra + yearOfEra / 4 - yearOfEra / 100)
  let shiftedMonth := (5 * dayOfYear + 2) / 153
  let month := if shiftedMonth < 10 then shiftedMonth + 3 else shiftedMonth - 9
  { year := yearOfEra + era * 400 + (if month ≤ 2 then 1 else 0)
    month
    day := dayOfYear - (153 * shiftedMonth + 2) / 5 + 1 }

/-- A natural with at least `width` digits. -/
def padded (width n : Nat) : List Char :=
  let ds := Decimal.digitChars n
  List.replicate (width - ds.length) '0' ++ ds

/-- A year: four digits from 0 to 9999, and outside a sign and at least
four digits. -/
def yearChars (y : Int) : List Char :=
  if 0 ≤ y ∧ y ≤ 9999 then padded 4 y.toNat
  else (if y < 0 then '-' else '+') :: padded 4 y.natAbs

/-- The time of day `seconds` seconds after midnight. -/
def timeChars (seconds : Nat) : List Char :=
  padded 2 (seconds / 3600) ++ ':' :: padded 2 (seconds / 60 % 60) ++ ':' :: padded 2 (seconds % 60)

/-- The text of the instant `millis` milliseconds after the beginning of
1970.  Milliseconds are shown where they are not zero. -/
def instantText (millis : Int) : String :=
  let seconds := millis.fdiv 1000
  let ms := (millis.fmod 1000).toNat
  let date := dateOfDay (seconds.fdiv 86400)
  let ofDay := (seconds.fmod 86400).toNat
  let fraction := if ms = 0 then [] else '.' :: padded 3 ms
  String.ofList <|
    yearChars date.year ++ '-' :: padded 2 date.month ++ '-' :: padded 2 date.day
      ++ 'T' :: timeChars ofDay ++ fraction ++ "+00:00".toList

example : instantText (-1500) = "1969-12-31T23:59:58.500+00:00" := by decide +kernel

example : instantText 1709164800000 = "2024-02-29T00:00:00+00:00" := by decide +kernel

end Calendar

end PushRelay
