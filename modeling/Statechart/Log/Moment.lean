import Statechart.Log.Value

/-!
# Moments

A moment is a number of seconds since the beginning of 1970 and a number of microseconds.  It is
written as a date and a time of day in universal time, with six decimals of a second unless they
are all zero.  A floating-point number of seconds is rounded to the nearest microsecond, to the
even one when two are equally near.
-/

namespace Statechart

/-- A moment in universal time. -/
structure Moment where
  /-- The seconds since the beginning of 1970. -/
  seconds : Int
  /-- The microseconds since the beginning of the second. -/
  microseconds : Nat
  deriving DecidableEq, Inhabited

namespace Moment

/-- Why a value is no moment that can be written. -/
inductive Fault where
  /-- The year, which is held in 32 bits, does not have four digits. -/
  | yearRange (year : Int)
  /-- The year is far beyond all years that can be written. -/
  | farYear
  /-- The number of seconds is out of range. -/
  | range
  /-- The value is not a number, though it is of a numeric type. -/
  | nan
  /-- The value is not of a numeric type. -/
  | notNumber (type : Text)
  deriving DecidableEq, Inhabited

/-- The message of a fault. -/
def Fault.message : Fault → Text
  | .yearRange year => "year ".toList ++ Digits.ofInt year ++ " is out of range".toList
  | .farYear => "[Errno 75] Value too large for defined data type".toList
  | .range => "timestamp out of range for platform time_t".toList
  | .nan => "Invalid value NaN (not a number)".toList
  | .notNumber type =>
    '\'' :: type ++ "' object cannot be interpreted as an integer".toList

/-- The least number of seconds that does not fit into 64 bits. -/
def secondsBound : Int := Nat.pow 2 63

/-- The moment of a floating-point number of seconds.  The decimals are first scaled to
microseconds as a floating-point number and then rounded to a whole one.  The bound itself wraps
around to the least number of seconds. -/
def ofDouble : Double → Except Fault Moment
  | .nan => .error .nan
  | .infinite _ => .error .range
  | .finite negative m e =>
    let (num, den) := Double.ratio m e
    let whole : Int := ↑(num / den)
    let micro : Nat :=
      match Double.ofRatio false (num % den * 1000000) den with
      | .finite _ m e =>
        let (num, den) := Double.ratio m e
        Digits.divRound num den
      | _ => 0
    let carries : Bool := micro == 1000000
    let whole : Int := if carries then whole + 1 else whole
    let micro : Nat := if carries then 0 else micro
    if negative then
      if micro = 0 then .ok ⟨-whole, 0⟩ else .ok ⟨-whole - 1, 1000000 - micro⟩
    else .ok ⟨if whole = secondsBound then -whole else whole, micro⟩

/-- The moment that a value stands for. -/
def ofValue : Value → Except Fault Moment
  | .int i => .ok ⟨i, 0⟩
  | .bool b => .ok ⟨if b then 1 else 0, 0⟩
  | .double x => ofDouble x
  | v => .error (.notNumber v.typeName)

/-- A day of the calendar. -/
structure Date where
  /-- The year. -/
  year : Int
  /-- The month, from 1 to 12. -/
  month : Nat
  /-- The day of the month, from 1. -/
  day : Nat
  deriving DecidableEq, Inhabited

/-- The date that is `days` days after the first of January 1970.  Years are counted from March,
so that the day that leap years have more is the last one of its year. -/
def Date.ofDays (days : Int) : Date :=
  -- day 0 is the first of March of the year 0
  let shifted := days + 719468
  let era := shifted.fdiv 146097
  let dayOfEra := (shifted - era * 146097).toNat
  let yearOfEra := (dayOfEra - dayOfEra / 1460 + dayOfEra / 36524 - dayOfEra / 146096) / 365
  let dayOfYear := dayOfEra - (365 * yearOfEra + yearOfEra / 4 - yearOfEra / 100)
  let month := (5 * dayOfYear + 2) / 153
  let day := dayOfYear - (153 * month + 2) / 5 + 1
  let year : Int := yearOfEra + era * 400
  if month < 10 then ⟨year, month + 3, day⟩ else ⟨year + 1, month - 9, day⟩

/-- The least number of years since 1900 that does not fit into 32 bits. -/
def yearsBound : Int := Nat.pow 2 31

/-- The moment as date and time of day. -/
def text (m : Moment) : Except Fault Text :=
  let date := Date.ofDays (m.seconds.fdiv 86400)
  let second := (m.seconds.fmod 86400).toNat
  if m.seconds < -secondsBound ∨ secondsBound ≤ m.seconds then .error .range
  else if date.year - 1900 < -yearsBound ∨ yearsBound ≤ date.year - 1900 then .error .farYear
  else if date.year < 1 ∨ 9999 < date.year then .error (.yearRange (date.year.bmod (Nat.pow 2 32)))
  else .ok <|
    Digits.padded 4 date.year.toNat ++ '-' :: Digits.padded 2 date.month ++
      '-' :: Digits.padded 2 date.day ++ 'T' :: Digits.padded 2 (second / 3600) ++
      ':' :: Digits.padded 2 (second / 60 % 60) ++ ':' :: Digits.padded 2 (second % 60) ++
      (if m.microseconds = 0 then [] else '.' :: Digits.padded 6 m.microseconds) ++
      "+00:00".toList

end Moment

end Statechart
