import Broker.Lib.Double

/-!
# Times of day

The UTC date and time of a POSIX timestamp and its ISO text, as Python's
`datetime.fromtimestamp(t, tz=timezone.utc).isoformat()` computes them: the
timestamp is a `float`, rounded to microseconds.
-/

namespace Py

/-- What `datetime.fromtimestamp` raises. -/
inductive TimestampError
  | overflow
  | os
  | value
  deriving DecidableEq, Repr

/-- The year, month and day of a number of days since 1970-01-01. -/
def civilFromDays (days : ℤ) : ℤ × ℤ × ℤ :=
  -- Years count from March, so that the leap day is the last of its year.
  let z := days + 719468
  let era := z / 146097
  let dayOfEra := z % 146097
  let yearOfEra :=
    (dayOfEra - dayOfEra / 1460 + dayOfEra / 36524 - dayOfEra / 146096) / 365
  let dayOfYear := dayOfEra - (365 * yearOfEra + yearOfEra / 4 - yearOfEra / 100)
  let month := (5 * dayOfYear + 2) / 153
  let day := dayOfYear - (153 * month + 2) / 5 + 1
  let month := if month < 10 then month + 3 else month - 9
  (yearOfEra + era * 400 + (if month ≤ 2 then 1 else 0), month, day)

/-- The decimal digits of a number, with leading zeros. -/
def padded (width : ℕ) (n : ℤ) : List Char :=
  let digits := Nat.toDigits 10 n.toNat
  List.replicate (width - digits.length) '0' ++ digits

/-- The seconds and microseconds of a timestamp, rounded half to even. -/
def splitTimestamp (t : ℚ) : ℤ × ℤ :=
  let seconds := Double.truncate t
  let us := Double.roundHalfEven ((Double.round ((t - seconds) * 1000000)).getD 0)
  if us ≥ 1000000 then (seconds + 1, us - 1000000)
  else if us < 0 then (seconds - 1, us + 1000000)
  else (seconds, us)

/-- The ISO text of the UTC time of a timestamp, with `Z` for its zone. -/
def isoUtc (t : ℚ) : Except TimestampError String :=
  let (seconds, us) := splitTimestamp t
  if seconds < -2 ^ 63 ∨ 2 ^ 63 ≤ seconds then .error .overflow
  else
    let (year, month, day) := civilFromDays (seconds / 86400)
    let time := seconds % 86400
    if year - 1900 < -2 ^ 31 ∨ 2 ^ 31 ≤ year - 1900 then .error .os
    else if year < 1 ∨ 9999 < year then .error .value
    else
      .ok (String.ofList (
        padded 4 year ++ '-' :: padded 2 month ++ '-' :: padded 2 day ++ 'T' ::
        padded 2 (time / 3600) ++ ':' :: padded 2 (time / 60 % 60) ++ ':' :: padded 2 (time % 60) ++
        (if us = 0 then [] else '.' :: padded 6 us) ++ ['Z']))

end Py
