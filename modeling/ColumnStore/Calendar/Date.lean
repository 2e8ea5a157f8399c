import ColumnStore.Number.Digits

/-!
# Calendar dates

Days of the proleptic Gregorian calendar, with a year zero and negative years. A
`Date` carries the proof that its month has such a day.
-/

set_option autoImplicit false

namespace ColumnStore

namespace Calendar

/-- Whether February has a day more. -/
def isLeapYear (year : Int) : Bool :=
  year % 4 = 0 && (year % 100 ≠ 0 || year % 400 = 0)

/-- Days of a month; no month of another number has any. -/
def daysIn (year : Int) : Nat → Nat
  | 1 | 3 | 5 | 7 | 8 | 10 | 12 => 31
  | 4 | 6 | 9 | 11 => 30
  | 2 => if isLeapYear year then 29 else 28
  | _ => 0

/-- The first year that can be represented. -/
def leastYear : Int := -262143

/-- The last year that can be represented. -/
def greatestYear : Int := 262142

end Calendar

/-- A day of the calendar. -/
structure Date where
  year : Int
  month : Nat
  day : Nat
  year_fits : Calendar.leastYear ≤ year ∧ year ≤ Calendar.greatestYear
  day_exists : 1 ≤ day ∧ day ≤ Calendar.daysIn year month
  deriving DecidableEq, Repr

namespace Date

/-- The date with these parts, when there is one. -/
def ofParts? (year : Int) (month day : Nat) : Option Date :=
  if year_fits : Calendar.leastYear ≤ year ∧ year ≤ Calendar.greatestYear then
    if day_exists : 1 ≤ day ∧ day ≤ Calendar.daysIn year month then
      some ⟨year, month, day, year_fits, day_exists⟩
    else none
  else none

/-- Calendar order. -/
def compare (left right : Date) : Ordering :=
  (Ord.compare left.year right.year).then
    ((Ord.compare left.month right.month).then (Ord.compare left.day right.day))

/-- The parts of a date between hyphens, after the year as given. -/
def textWithYear (year : List Char) (date : Date) : List Char :=
  year ++ '-' :: Digits.padded 2 date.month ++ '-' :: Digits.padded 2 date.day

/-- Year, month and day; the year has at least four places, of which a minus sign
takes one. -/
def text (date : Date) : String :=
  String.ofList (date.textWithYear (Digits.paddedInt 4 date.year))

/-- The year as interchange formats write it: four digits, or a sign and at least four
digits for years before zero or after 9999. -/
def signedYear (year : Int) : List Char :=
  if 0 ≤ year ∧ year ≤ 9999 then Digits.padded 4 year.natAbs
  else (if year < 0 then '-' else '+') :: Digits.padded 4 year.natAbs

/-- Year, month and day as interchange formats write them. -/
def interchangeText (date : Date) : String :=
  String.ofList (date.textWithYear (signedYear date.year))

end Date

end ColumnStore
