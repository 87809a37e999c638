/-
# Times as values and as text

A point or a span of time is a count of steps. `TimeType.recount` counts it in other steps,
`TimeType.item` is the value that it has outside an array, and `TimeType.shown` is its text, which
goes as far as its unit does.
-/
import MissingSamples.Calendar
import MissingSamples.Value.Number

namespace MissingSamples

namespace TimeType

/-! ## Other steps -/

/-- The days before a count of years or months, all after the start of 1970. -/
def calendarDays (total : Int) (unit : TimeUnit) : Int :=
  if unit = .year then Date.monthStart (1970 + total) 1
  else Date.monthStart (1970 + total / 12) ((total % 12).toNat + 1)

/-- A count of a unit in other steps, rounded down. Years and months end by the calendar. -/
def recountSteps (total : Int) (unit : TimeUnit) (n : Nat) (target : TimeUnit) : Int :=
  match unit.attoseconds?, target.attoseconds? with
  | some x, some y => total * x / (y * n : Nat)
  | none, some y => calendarDays total unit * 86400000000000000000000 / (y * n : Nat)
  | _, none => total * unit.ratio target / n

/-- A count of the first type as one of the second, where that has steps as long or shorter. What
has no steps counts those of the other, and so does a span among points. -/
def recount (source target : TimeType) (count : Int) : Int :=
  if count = noTime ∨ source.isPoint ≠ target.isPoint then count
  else
    match source.step, target.step with
    | some (n, unit), some (m, other) => recountSteps (count * n) unit m other
    | _, _ => count

/-! ## Values -/

/-- Millionths of a second in a count of a unit of fixed length. -/
def micros (total : Int) (unit : TimeUnit) : Int := (whole? total unit .micro).getD 0

/-- A span of time in days and clock time. -/
def spanText (total : Int) : String :=
  let days := total / 86400000000
  let rest := (total % 86400000000).toNat
  let seconds := rest / 1000000
  let clock := toString (seconds / 3600) ++ ":" ++ padded 2 (seconds / 60 % 60) ++ ":"
    ++ padded 2 (seconds % 60) ++ if rest % 1000000 = 0 then "" else "." ++ padded 6 (rest % 1000000)
  if days = 0 then clock
  else toString days ++ (if days.natAbs = 1 then " day, " else " days, ") ++ clock

/-- The value that a time is outside an array. Points without a unit are nothing. -/
def item (t : TimeType) (count : Int) : Value :=
  if count = noTime then .null
  else if t.isBareCount count then .int count
  else
    match t.step with
    | none => .null
    | some (n, unit) =>
      let total := count * n
      if t.isPoint then
        match unit with
        | .year | .month => .date (.ofDays (calendarDays total unit))
        | .week => .date (.ofDays (7 * total))
        | .day => .date (.ofDays total)
        | _ => .moment (.ofMicros (micros total unit))
      else .text (spanText (micros total unit))

/-! ## Text -/

/-- The parts of a second that a unit finer than one counts, as decimal places. -/
def places : TimeUnit → Nat
  | .milli => 3
  | .micro => 6
  | .nano => 9
  | .pico => 12
  | .femto => 15
  | .atto => 18
  | _ => 0

/-- The name of a unit in spans. -/
def unitName : TimeUnit → String
  | .year => "years"
  | .month => "months"
  | .week => "weeks"
  | .day => "days"
  | .hour => "hours"
  | .minute => "minutes"
  | .second => "seconds"
  | .milli => "milliseconds"
  | .micro => "microseconds"
  | .nano => "nanoseconds"
  | .pico => "picoseconds"
  | .femto => "femtoseconds"
  | .atto => "attoseconds"

/-- The day that lies so many days after the start of 1970, as text. -/
def daysText (days : Int) : String :=
  let (year, month, day) := yearMonthDay days
  dayText year month day

/-- A point in time, written as far as its unit goes. -/
def pointText (total : Int) (unit : TimeUnit) : String :=
  let clock (seconds : Int) : String × String × String :=
    let ofDay := (seconds % 86400).toNat
    (daysText (seconds / 86400) ++ "T" ++ padded 2 (ofDay / 3600), ":" ++ padded 2 (ofDay / 60 % 60),
      ":" ++ padded 2 (ofDay % 60))
  match unit with
  | .year => yearText (1970 + total)
  | .month => yearText (1970 + total / 12) ++ "-" ++ padded 2 ((total % 12).toNat + 1)
  | .week => daysText (7 * total)
  | .day => daysText total
  | .hour => (clock (total * 3600)).1
  | .minute =>
    let (hour, minute, _) := clock (total * 60)
    hour ++ minute
  | fine =>
    let scale : Nat := Nat.pow 10 (places fine)
    let (hour, minute, second) := clock (total / scale)
    hour ++ minute ++ second
      ++ if scale = 1 then "" else "." ++ padded (places fine) (total % scale).toNat

/-- A time of the type as text. -/
def shown (t : TimeType) (count : Int) : String :=
  if count = noTime then "NaT"
  else
    match t.step with
    | none => if t.isPoint then toString count else toString count ++ " generic time units"
    | some (n, unit) =>
      if t.isPoint then pointText (count * n) unit
      else toString (count * n) ++ " " ++ unitName unit

/-- The step of a type without brackets. -/
def stepName (n : Nat) (unit : TimeUnit) : String :=
  (if n = 1 then "" else toString n) ++ unit.symbol

/-- A time of the type as it stands in lists, where it names its step if its text does not tell. -/
def quoted (t : TimeType) (count : Int) : String :=
  let text :=
    if t.isPoint then "'" ++ t.shown count ++ "'"
    else if count = noTime then "'NaT'" else toString count
  let step := match t.step with
    | none => ""
    | some (n, unit) =>
      if t.isPoint ∧ n = 1 ∧ unit ≠ .hour ∧ count ≠ noTime then ""
      else ",'" ++ stepName n unit ++ "'"
  (if t.isPoint then "np.datetime64(" else "np.timedelta64(") ++ text ++ step ++ ")"

end TimeType

end MissingSamples
