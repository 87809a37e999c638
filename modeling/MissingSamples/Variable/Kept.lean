/-
# Samples as variables keep them

A variable keeps times in seconds or in thousandths, millionths or milliardths of them, one unit a
step; `TimeType.kept` counts other times anew. Samples of any kind are looked at when a variable is
made: if all of them are points in time, or all are spans, they are kept as such, and next to texts
what is missing becomes not-a-number. `Elements.kept` does both.
-/
import MissingSamples.Value.Gather

namespace MissingSamples

namespace TimeUnit

/-- The unit in which variables keep times of a unit. -/
def kept : TimeUnit → TimeUnit
  | .year | .month | .week | .day | .hour | .minute => .second
  | .pico | .femto | .atto => .nano
  | unit => unit

end TimeUnit

namespace TimeType

/-- A count that eight octets hold, other than that of no time at all. -/
def isCount (count : Int) : Bool := noTime < count && count ≤ IntType.int64.greatest

/-- A count in the given unit as one of another. -/
def keptCount (t : TimeType) (unit target : TimeUnit) (count : Int) : Except Failure Int :=
  if count = noTime then .ok noTime
  else
    let other := recountSteps count unit 1 target
    if isCount other then .ok other else .error (.timeOutOfRange t.isPoint)

/-- The type and the counts with which a variable keeps times. Points are kept in the order of this
machine. -/
def kept (t : TimeType) (counts : List Int) : Except Failure (TimeType × List Int) :=
  match t.step with
  | none => .error .noUnit
  | some (n, unit) =>
    if n ≠ 1 then .error .severalUnits
    else if unit.kept = unit then
      .ok (if t.isPoint then { t with order := .little } else t, counts)
    else do
      let counts ← counts.mapM (t.keptCount unit unit.kept)
      return (⟨t.isPoint, some (1, unit.kept), .little⟩, counts)

end TimeType

namespace Value

/-- The value stands for a missing sample among others: nothing, or not-a-number. -/
def isBlank : Value → Bool
  | null | float .nan | scalar (.float _ .nan) => true
  | _ => false

/-- The time that a value is: its type and its count. -/
def time? : Value → Option (TimeType × Int)
  | scalar (.time t count) => some (t, count)
  | _ => none

/-- The value is a point in time, or a span, as the first argument says. -/
def isTime (isPoint : Bool) (v : Value) : Bool :=
  match v.time? with
  | some (t, _) => t.isPoint == isPoint
  | none => false

/-- The value is no time at all. -/
def isNoTime (v : Value) : Bool := v.time?.any fun t => t.2 == TimeType.noTime

/-- The value is a text. -/
def isText : Value → Bool
  | text _ | scalar (.text _) => true
  | _ => false

end Value

/-- The shortest unit in which variables keep one of the times, seconds if there is none. -/
def commonUnit (xs : List Value) : TimeUnit :=
  (xs.filterMap fun v => do
    let (t, count) ← v.time?
    if count = TimeType.noTime then none else return (t.step.map (·.2)).getD .nano).foldl
    (fun unit other => if other.kept.isWithin unit then other.kept else unit) .second

/-- A sample as a count of the unit; what is missing is no time at all. -/
def countIn (unit : TimeUnit) (v : Value) : Except Failure Int :=
  match v.time? with
  | none => .ok TimeType.noTime
  | some (t, count) =>
    match t.step with
    | none => .ok count
    | some (_, source) => t.keptCount source unit count

/-- Samples of any kind as times, if all of them are. -/
def timesOf? (isPoint : Bool) (xs : List Value) : Option (Elements Value) :=
  let unit := commonUnit xs
  if xs.all fun v => v.isBlank || v.isTime isPoint then
    match xs.mapM (countIn unit) with
    | .ok counts => some (.times ⟨isPoint, some (1, unit), .little⟩ counts)
    | .error _ => none
  else none

/-- Samples of any kind as variables keep them. The first that is not missing tells what they may
be. -/
def keptObjects (xs : List Value) : Elements Value :=
  match xs.find? fun v => !v.isBlank with
  | none => .objects xs
  | some first =>
    if first.isText then
      if xs.all fun v => v.isText || v.isBlank || v.isNoTime then
        .objects (xs.map fun v => if v.isText then v else .float .nan)
      else .objects xs
    else
      match first.time? with
      | some (t, _) => (timesOf? t.isPoint xs).getD (.objects xs)
      | none => .objects xs

/-- Samples as variables keep them. -/
def Elements.kept : Elements Value → Except Failure (Elements Value)
  | .times t counts => do
    let (t, counts) ← t.kept counts
    return .times t counts
  | .objects xs => .ok (keptObjects xs)
  | elements => .ok elements

end MissingSamples
