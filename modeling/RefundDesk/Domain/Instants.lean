import RefundDesk.Domain.Types

namespace RefundDesk

-- The text of `value` with at least `width` digits.
def paddedText (width value : Nat) : String :=
  let digits := toString value
  String.ofList (List.replicate (width - digits.length) '0') ++ digits

-- The year, the month and the day that is `days` days after the epoch.
def civilDate (days : Int) : Int × Nat × Nat :=
  let shifted := days + 719468
  let era := shifted / 146097
  let dayOfEra := (shifted % 146097).toNat
  let yearOfEra := (dayOfEra - dayOfEra / 1460 + dayOfEra / 36524 - dayOfEra / 146096) / 365
  let dayOfYear := dayOfEra - (365 * yearOfEra + yearOfEra / 4 - yearOfEra / 100)
  let month := (5 * dayOfYear + 2) / 153
  let day := dayOfYear - (153 * month + 2) / 5 + 1
  let year := yearOfEra + era * 400
  if month < 10 then (year, month + 3, day) else (year + 1, month - 9, day)

-- `toISOString`
def isoText (time : Timestamp) : String :=
  let (year, month, day) := civilDate (time / 86400000)
  let millisecond := (time % 86400000).toNat
  let yearText :=
    if year < 0 then "-" ++ paddedText 6 year.natAbs
    else if 9999 < year then "+" ++ paddedText 6 year.natAbs
    else paddedText 4 year.natAbs
  yearText ++ "-" ++ paddedText 2 month ++ "-" ++ paddedText 2 day ++ "T" ++
    paddedText 2 (millisecond / 3600000) ++ ":" ++ paddedText 2 (millisecond / 60000 % 60) ++ ":" ++
    paddedText 2 (millisecond / 1000 % 60) ++ "." ++ paddedText 3 (millisecond % 1000) ++ "Z"

example : isoText 951782400123 = "2000-02-29T00:00:00.123Z" := by decide +kernel

-- The days from the epoch to a day of the calendar
def daysFromCivil (year month day : Nat) : Int :=
  let shiftedYear : Int := if month ≤ 2 then year - 1 else year
  let shiftedMonth := if 2 < month then month - 3 else month + 9
  let era := shiftedYear / 400
  let yearOfEra := shiftedYear % 400
  let dayOfYear : Int := (153 * shiftedMonth + 2) / 5 + day - 1
  let dayOfEra := yearOfEra * 365 + yearOfEra / 4 - yearOfEra / 100 + dayOfYear
  era * 146097 + dayOfEra - 719468

def digitsValue (cs : List Char) : Nat :=
  cs.foldl (fun value c => value * 10 + (c.toNat - '0'.toNat)) 0

-- `^\d{4}-\d{2}-\d{2}T\d{2}:\d{2}:\d{2}\.\d{3}Z$`, and the time that is read from its numbers
def parseIsoInstant (text : String) : Option Timestamp :=
  match text.toList with
  | [y₁, y₂, y₃, y₄, '-', m₁, m₂, '-', d₁, d₂, 'T', h₁, h₂, ':', n₁, n₂, ':', s₁, s₂, '.',
      f₁, f₂, f₃, 'Z'] =>
    let digits := [y₁, y₂, y₃, y₄, m₁, m₂, d₁, d₂, h₁, h₂, n₁, n₂, s₁, s₂, f₁, f₂, f₃]
    let days := daysFromCivil (digitsValue [y₁, y₂, y₃, y₄]) (digitsValue [m₁, m₂])
      (digitsValue [d₁, d₂])
    let second := (digitsValue [h₁, h₂] * 60 + digitsValue [n₁, n₂]) * 60 + digitsValue [s₁, s₂]
    if digits.all Char.isDigit then
      some (days * 86400000 + second * 1000 + digitsValue [f₁, f₂, f₃])
    else
      none
  | _ => none

-- The texts that `toISOString` gives back
def parseCanonicalIsoInstant (text : String) : Option Timestamp :=
  (parseIsoInstant text).filter fun time => isoText time = text

theorem isoText_of_parseCanonicalIsoInstant {text : String} {time : Timestamp}
    (h : parseCanonicalIsoInstant text = some time) : isoText time = text := by
  have hfilter := (Option.filter_eq_some_iff.mp h).2
  exact of_decide_eq_true hfilter

end RefundDesk
