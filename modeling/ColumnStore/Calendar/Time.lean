import ColumnStore.Number.Digits

/-!
# Times of day

Times of day to the nanosecond. A leap second is a nanosecond field of a whole second
or more behind second 59, so it sorts after every other instant of its minute.
-/

set_option autoImplicit false

namespace ColumnStore

namespace Calendar

/-- Nanoseconds of one second. -/
def nanosPerSecond : Nat := 1000000000

/-- Nanoseconds of one millisecond. -/
def nanosPerMilli : Nat := 1000000

end Calendar

/-- A time of day. -/
structure Time where
  hour : Nat
  minute : Nat
  second : Nat
  nano : Nat
  hour_lt : hour < 24
  minute_lt : minute < 60
  second_lt : second < 60
  nano_lt : nano < Calendar.nanosPerSecond ∨
    (second = 59 ∧ nano < 2 * Calendar.nanosPerSecond)
  deriving DecidableEq, Repr

namespace Time

/-- The time with these parts, when there is one. -/
def ofParts? (hour minute second nano : Nat) : Option Time :=
  if hour_lt : hour < 24 then
    if minute_lt : minute < 60 then
      if second_lt : second < 60 then
        if nano_lt : nano < Calendar.nanosPerSecond ∨
            (second = 59 ∧ nano < 2 * Calendar.nanosPerSecond) then
          some ⟨hour, minute, second, nano, hour_lt, minute_lt, second_lt, nano_lt⟩
        else none
      else none
    else none
  else none

/-- The time with these parts, when there is one; milliseconds whose
nanoseconds do not fit 32 bits name none. -/
def ofMillis? (hour minute second milli : Nat) : Option Time :=
  if milli * Calendar.nanosPerMilli < 4294967296 then
    ofParts? hour minute second (milli * Calendar.nanosPerMilli)
  else none

/-- The start of a day. -/
def midnight : Time :=
  ⟨0, 0, 0, 0, by decide, by decide, by decide, by decide⟩

/-- Whole milliseconds behind the second. -/
def milli (time : Time) : Nat :=
  time.nano / Calendar.nanosPerMilli

/-- The order of instants in a day. -/
def compare (left right : Time) : Ordering :=
  (Ord.compare left.hour right.hour).then
    ((Ord.compare left.minute right.minute).then
      ((Ord.compare left.second right.second).then (Ord.compare left.nano right.nano)))

/-- Hour, minute and second between colons. -/
def clock (hour minute second : Nat) : List Char :=
  Digits.padded 2 hour ++ ':' :: Digits.padded 2 minute ++ ':' :: Digits.padded 2 second

/-- The clock and the nanosecond field, at least nine digits of it. -/
def text (time : Time) : String :=
  String.ofList (clock time.hour time.minute time.second ++ '.' :: Digits.padded 9 time.nano)

/-- A fraction of a second with three, six or nine digits, the fewest that are exact;
nothing for a whole second. -/
def shortFraction (nano : Nat) : List Char :=
  if nano = 0 then []
  else if nano % 1000000 = 0 then '.' :: Digits.padded 3 (nano / 1000000)
  else if nano % 1000 = 0 then '.' :: Digits.padded 6 (nano / 1000)
  else '.' :: Digits.padded 9 nano

/-- The clock as interchange formats write it: a leap second is second 60. -/
def interchangeText (time : Time) : String :=
  let leap := time.nano / Calendar.nanosPerSecond
  String.ofList (clock time.hour time.minute (time.second + leap) ++
    shortFraction (time.nano % Calendar.nanosPerSecond))

end Time

end ColumnStore
