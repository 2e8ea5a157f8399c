import ColumnStore.Calendar.Date
import ColumnStore.Calendar.Time

/-!
# Timestamps

A day and a time of that day, without a time zone.
-/

set_option autoImplicit false

namespace ColumnStore

/-- A date and a time of day. -/
structure Timestamp where
  date : Date
  time : Time
  deriving DecidableEq, Repr

namespace Timestamp

/-- Days first, then times of one day. -/
def compare (left right : Timestamp) : Ordering :=
  (left.date.compare right.date).then (left.time.compare right.time)

/-- Date and time with a `T` between them. -/
def text (timestamp : Timestamp) : String :=
  timestamp.date.text ++ "T" ++ timestamp.time.text

/-- Date and time as interchange formats write them, with a separator between them. -/
def interchangeText (separator : String) (timestamp : Timestamp) : String :=
  timestamp.date.interchangeText ++ separator ++ timestamp.time.interchangeText

end Timestamp

end ColumnStore
