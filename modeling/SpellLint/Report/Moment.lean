/-! # Moments

Points in time as they are written in reports: date and time of day in universal time.
-/

set_option autoImplicit false

namespace SpellLint

/-- A point in time: the seconds since the start of 1970, and the microseconds of the next second. -/
structure Moment where
  seconds : Int
  micros : Nat
  deriving DecidableEq, Repr

namespace Moment

/-- A number with zeros in front up to `width` digits. -/
def padded (width n : Nat) : String :=
  let s := toString n
  String.ofList (List.replicate (width - s.length) '0') ++ s

/-- Year, month and day of a day that is counted from the start of 1970. Years are taken to start in March, so that
the day that is added in leap years comes last. -/
def dateOf (day : Int) : Int × Nat × Nat :=
  let z := day + 719468
  let era := z.fdiv 146097
  let d := (z - era * 146097).toNat
  let y := (d - d / 1460 + d / 36524 - d / 146096) / 365
  let inYear := d - (365 * y + y / 4 - y / 100)
  let m := (5 * inYear + 2) / 153
  let month := if m < 10 then m + 3 else m - 9
  (y + era * 400 + (if month ≤ 2 then 1 else 0), month, inYear - (153 * m + 2) / 5 + 1)

/-- A moment as text. -/
def text (t : Moment) : String :=
  let (year, month, day) := dateOf (t.seconds.fdiv 86400)
  let s := (t.seconds.fmod 86400).toNat
  let fraction := if t.micros = 0 then "" else "." ++ padded 6 t.micros
  s!"{padded 4 year.toNat}-{padded 2 month}-{padded 2 day}T{padded 2 (s / 3600)}:{padded 2 (s / 60 % 60)}:" ++
    padded 2 (s % 60) ++ fraction ++ "+00:00"

end Moment

end SpellLint
