import IteratedDilemma.Number.Binary64
import IteratedDilemma.Text.Quoted
import IteratedDilemma.Time.Calendar

/-! Timestamps: a date and a time of day, with or without the offset of a time zone, their written
form and the instants they stand for. -/
namespace IteratedDilemma
set_option autoImplicit false

/-- Why a text or a set of numbers is no timestamp. -/
inductive TimeFault where
  | unreadable (text : Text)
  | year (n : Nat)
  | month
  | day
  | hour
  | minute
  | second
  | micro
  | offset (micros : Int)
deriving DecidableEq

/-- Microseconds of a day. -/
def microsPerDay : Nat := 86400000000

/-- A span of time as days, seconds of a day and microseconds, those left out that are zero. -/
def spanText (micros : Int) : String :=
  let days := micros.fdiv microsPerDay
  let inDay := micros.fmod microsPerDay
  let part (name : String) (n : Int) := if n = 0 then [] else [name ++ "=" ++ toString n]
  "datetime.timedelta(" ++ ", ".intercalate (part "days" days ++
    part "seconds" (inDay / 1000000) ++ part "microseconds" (inDay % 1000000)) ++ ")"

def TimeFault.message : TimeFault → Text
  | unreadable text => "Invalid isoformat string: " ++ text.quoted
  | year n => s!"year {n} is out of range"
  | month => "month must be in 1..12"
  | day => "day is out of range for month"
  | hour => "hour must be in 0..23"
  | minute => "minute must be in 0..59"
  | second => "second must be in 0..59"
  | micro => "microsecond must be in 0..999999"
  | offset micros =>
    "offset must be a timedelta strictly between -timedelta(hours=24) and timedelta(hours=24), " ++
      "not " ++ spanText micros ++ "."

/-- The date, the time of day and the offset in microseconds, before anything is checked. -/
structure Moment where
  year : Nat
  month : Nat
  day : Nat
  hour : Nat
  minute : Nat
  second : Nat
  micro : Nat
  offset : Option Int
deriving DecidableEq

/-- The first fault of a moment: its offset, then its date, then its time of day. -/
def Moment.fault? (m : Moment) : Option TimeFault :=
  if let some micros := m.offset.filter fun micros => microsPerDay ≤ micros.natAbs then
    some (.offset micros)
  else if m.year = 0 ∨ 9999 < m.year then some (.year m.year)
  else if m.month = 0 ∨ 12 < m.month then some .month
  else if m.day = 0 ∨ Calendar.monthLength m.year m.month < m.day then some .day
  else if 23 < m.hour then some .hour
  else if 59 < m.minute then some .minute
  else if 59 < m.second then some .second
  else if 999999 < m.micro then some .micro
  else none

/-- A moment without fault. -/
structure Timestamp extends Moment where
  sound : toMoment.fault? = none
deriving DecidableEq

namespace Timestamp

/-- The timestamp of a moment, or its first fault. -/
def ofMoment (m : Moment) : Except TimeFault Timestamp :=
  match h : m.fault? with
  | none => .ok ⟨m, h⟩
  | some fault => .error fault

/-- Midnight at the start of the year 2024 in universal time. -/
def start2024 : Timestamp :=
  ⟨⟨2024, 1, 1, 0, 0, 0, 0, some 0⟩, by decide⟩

/-! ## Text -/

/-- A number in at least `width` digits, filled with zeros. -/
def padded (width n : Nat) : String :=
  let digits := Nat.toDigits 10 n
  String.ofList (List.replicate (width - digits.length) '0' ++ digits)

/-- The part after the seconds, written only if it is not zero. -/
def fractionText (micro : Nat) : String :=
  if micro = 0 then "" else "." ++ padded 6 micro

/-- An offset as a sign with hours and minutes, seconds and their fraction only where needed. -/
def offsetText (micros : Int) : String :=
  let sign := if micros < 0 then "-" else "+"
  let total := micros.natAbs
  let seconds := total / 1000000
  let fraction := total % 1000000
  let tail := if seconds % 60 = 0 ∧ fraction = 0 then ""
    else ":" ++ padded 2 (seconds % 60) ++ fractionText fraction
  sign ++ padded 2 (seconds / 3600) ++ ":" ++ padded 2 (seconds / 60 % 60) ++ tail

/-- The written form, date and time joined by a `T`. -/
def isoText (t : Timestamp) : String :=
  padded 4 t.year ++ "-" ++ padded 2 t.month ++ "-" ++ padded 2 t.day ++ "T" ++
    padded 2 t.hour ++ ":" ++ padded 2 t.minute ++ ":" ++ padded 2 t.second ++
    fractionText t.micro ++ (t.offset.map offsetText).getD ""

/-- The form used in names of files: date, underscore, time of day. The year is not filled up. -/
def compactText (t : Timestamp) : String :=
  toString t.year ++ padded 2 t.month ++ padded 2 t.day ++ "_" ++
    padded 2 t.hour ++ padded 2 t.minute ++ padded 2 t.second

/-! ## Instants -/

/-- Microseconds from March 1 of year 0 to the moment, offset left aside. -/
def localMicros (t : Timestamp) : Int :=
  (Calendar.Day.mk t.year t.month t.day).number * microsPerDay +
    ((t.hour * 60 + t.minute) * 60 + t.second) * 1000000 + t.micro

/-- Microseconds in universal time. Without an offset the moment counts as universal time. -/
def universalMicros (t : Timestamp) : Int :=
  t.localMicros - t.offset.getD 0

/-- January 1, 1970, in microseconds from March 1 of year 0. -/
def epoch : Int :=
  (Calendar.Day.mk 1970 1 1).number * microsPerDay

/-- The value of the floating-point number nearest to a rational. -/
def rounded (x : Rat) : Rat :=
  ((Binary64.ofRat x).toRat?).getD 0

/-- Seconds since 1970 as a floating-point number. With an offset the exact count is rounded;
without one the fraction of the second is rounded before it joins the whole seconds. -/
def instant (t : Timestamp) : Rat :=
  let micros := t.universalMicros - epoch
  match t.offset with
  | some _ => rounded (micros / 1000000)
  | none => rounded (((micros - t.micro) / 1000000 : Int) + rounded ((t.micro : Rat) / 1000000))

/-- The first day of the calendar without an offset has no instant: its neighbour a day earlier,
which decides about a change of clocks, does not exist. -/
def hasInstant (t : Timestamp) : Bool :=
  !(t.offset.isNone && t.year == 1 && t.month == 1 && t.day == 1)

/-- The moment of a count of microseconds in universal time. -/
def momentOf (micros : Int) (offset : Option Int) : Moment :=
  let micros := micros.toNat
  let day := Calendar.Day.ofNumber (micros / microsPerDay)
  let seconds := micros % microsPerDay / 1000000
  { year := day.year, month := day.month, day := day.day
    hour := seconds / 3600, minute := seconds / 60 % 60, second := seconds % 60
    micro := micros % 1000000, offset }

/-- The same instant in universal time, with offset zero. -/
def inUniversalTime (t : Timestamp) : Timestamp :=
  if t.offset = some 0 then t
  else ((ofMoment (momentOf t.universalMicros (some 0))).toOption).getD start2024

/-- The date and time of day without the offset. -/
def withoutOffset (t : Timestamp) : Timestamp :=
  { t with
    offset := none
    sound := by
      have h := t.sound
      unfold Moment.fault? at h ⊢
      split at h
      · cases h
      · simpa using h }

end Timestamp
end IteratedDilemma
