import MapAudit.Script.Raw

/-! # Calendar

    A moment is a number of seconds since the start of 1970, and nanoseconds
    after them. A date and a time of day lead to a moment and back; days, months
    and years repeat themselves after 400 years. All times are those of one zone.

    A duration is written as a decimal number of seconds, perhaps with a letter
    that makes it minutes, hours or days. Only nanoseconds count.
-/

namespace MapAudit.Script

/-- **Moment**. -/
structure Moment where
  /-- The seconds since the start of 1970. -/
  seconds : Int
  /-- The nanoseconds after them. -/
  nanoseconds : Nat
  deriving DecidableEq, Repr

/-- **Date** with the time of day. A month or a day may be outside of the usual
    range and then counts on from there. -/
structure Date where
  /-- The year. -/
  year : Int
  /-- The month, from 1. -/
  month : Int
  /-- The day of the month, from 1. -/
  day : Int
  /-- The seconds since the start of the day. -/
  time : Int
  deriving DecidableEq, Repr

namespace Date

/-- The days from the start of 1970 to a day. -/
def dayNumber (year month day : Int) : Int :=
  let year := year + Int.fdiv (month - 1) 12
  let month := Int.fmod (month - 1) 12 + 1
  let y := if month ≤ 2 then year - 1 else year
  let era := Int.fdiv y 400
  let yearOfEra := y - era * 400
  let monthFromMarch := if month ≤ 2 then month + 9 else month - 3
  let dayOfYear := Int.fdiv (153 * monthFromMarch + 2) 5
  let dayOfEra := yearOfEra * 365 + Int.fdiv yearOfEra 4 - Int.fdiv yearOfEra 100 + dayOfYear
  era * 146097 + dayOfEra - 719468 + (day - 1)

/-- The year, month and day of a number of days from the start of 1970. -/
def ofDayNumber (n : Int) : Int × Int × Int :=
  let z := n + 719468
  let era := Int.fdiv z 146097
  let dayOfEra := z - era * 146097
  let yearOfEra := Int.fdiv (dayOfEra - Int.fdiv dayOfEra 1460 + Int.fdiv dayOfEra 36524
    - Int.fdiv dayOfEra 146096) 365
  let dayOfYear := dayOfEra - (365 * yearOfEra + Int.fdiv yearOfEra 4 - Int.fdiv yearOfEra 100)
  let monthFromMarch := Int.fdiv (5 * dayOfYear + 2) 153
  let day := dayOfYear - Int.fdiv (153 * monthFromMarch + 2) 5 + 1
  let month := if monthFromMarch < 10 then monthFromMarch + 3 else monthFromMarch - 9
  let year := yearOfEra + era * 400 + (if month ≤ 2 then 1 else 0)
  (year, month, day)

/-- How many seconds a day has. -/
def daySeconds : Int := 86400

/-- The seconds from the start of 1970. -/
def seconds (d : Date) : Int :=
  dayNumber d.year d.month d.day * daySeconds + d.time

/-- The date of a number of seconds from the start of 1970. -/
def ofSeconds (n : Int) : Date :=
  let (year, month, day) := ofDayNumber (Int.fdiv n daySeconds)
  { year, month, day, time := Int.fmod n daySeconds }

/-- Whether a date is in the usual range. -/
def isUsual (d : Date) : Bool :=
  let (year, month, day) := ofDayNumber (dayNumber d.year d.month d.day)
  year = d.year && month = d.month && day = d.day && 0 ≤ d.time && d.time ≤ daySeconds

/-- The day of the week, from zero for Sunday. -/
def weekday (d : Date) : Int :=
  Int.fmod (dayNumber d.year d.month d.day + 4) 7

/-- The day of the year, from zero. -/
def yearDay (d : Date) : Int :=
  dayNumber d.year d.month d.day - dayNumber d.year 1 1

/-- The number of the week in the year, when weeks begin on a day of the week and the
    first one is the first whole one. -/
def week (d : Date) (firstDay : Int) : Int :=
  Int.fdiv (yearDay d + 7 - Int.fmod (weekday d - firstDay) 7) 7

/-- The year that the week of a day belongs to, and the number of the week in it,
    when weeks begin on Monday and the first one has the fourth of January. -/
def weekOfYear (d : Date) : Int × Int :=
  let thursday := dayNumber d.year d.month d.day - Int.fmod (weekday d + 6) 7 + 3
  let (year, _, _) := ofDayNumber thursday
  (year, Int.fdiv (thursday - dayNumber year 1 1) 7 + 1)

end Date

namespace Moment

/-- How many nanoseconds a second has. -/
def secondSize : Int := 1000000000

/-- The moment of a number of nanoseconds. -/
def ofNanoseconds (n : Int) : Moment where
  seconds := Int.fdiv n secondSize
  nanoseconds := (Int.fmod n secondSize).toNat

/-- The nanoseconds from the start of 1970. -/
def total (m : Moment) : Int :=
  m.seconds * secondSize + m.nanoseconds

/-- The date of a moment. -/
def date (m : Moment) : Date :=
  .ofSeconds m.seconds

end Moment

/-! ## Names -/

/-- The names of months. -/
def monthNames : List String :=
  ["January", "February", "March", "April", "May", "June", "July", "August", "September",
    "October", "November", "December"]

/-- The names of days of the week. -/
def weekdayNames : List String :=
  ["Sunday", "Monday", "Tuesday", "Wednesday", "Thursday", "Friday", "Saturday"]

/-- The place in a list of a name that begins with some letters, at least three. -/
def placeOfName? (names : List String) (r : Raw) : Option Nat :=
  if r.length < 3 then none
  else names.findIdx? fun name => (r.map Char.toLower).isPrefixOf (name.toList.map Char.toLower)

/-! ## Writing -/

/-- How a number in a date is written. -/
structure Padding where
  /-- What it is padded with, if anything. -/
  pad : Option Char
  /-- How wide it is at least. -/
  width : Nat

/-- A number, padded to a width. -/
def Padding.number (p : Padding) (n : Int) : Raw :=
  let digits := Raw.ofNat n.natAbs
  let sign : Raw := if n < 0 then ['-'] else []
  match p.pad with
  | none => sign ++ digits
  | some '0' => sign ++ List.replicate (p.width - digits.length - sign.length) '0' ++ digits
  | some c => List.replicate (p.width - digits.length - sign.length) c ++ sign ++ digits

/-- A text, padded to a width. -/
def Padding.text (p : Padding) (r : Raw) : Raw :=
  match p.pad with
  | none => r
  | some c => List.replicate (p.width - r.length) c ++ r

/-- The flags and the width of a directive in a date format. -/
structure DateFlags where
  /-- What numbers are padded with, if that is said. -/
  pad : Option Char
  /-- Whether letters become capitals. -/
  isUpper : Bool
  /-- Whether the case of letters is changed over. -/
  isSwapped : Bool
  /-- The width, if that is said. -/
  width : Option Nat

namespace DateFlags

/-- No flags. -/
def none : DateFlags where
  pad := Option.none
  isUpper := false
  isSwapped := false
  width := Option.none

/-- Reads flags and the width. The answer has what is left. -/
def read (f : DateFlags) : Raw → DateFlags × Raw
  | c :: rest =>
    if ['-', '_', '0'].contains c then read { f with pad := some c } rest
    else if c = '^' then read { f with isUpper := true } rest
    else if c = '#' then read { f with isSwapped := true } rest
    else
      let digits := (c :: rest).takeWhile Char.isDigit
      ({ f with width := Raw.toNat? digits }, (c :: rest).drop digits.length)
  | [] => (f, [])

/-- How a number is written that is usually padded in some way. -/
def padding (f : DateFlags) (pad : Char) (width : Nat) : Padding where
  pad := match f.pad with
    | some '-' => Option.none
    | some '_' => some ' '
    | some c => some c
    | Option.none => some pad
  width := f.width.getD width

/-- A text as the flags ask for it. -/
def text (f : DateFlags) (r : Raw) : Raw :=
  let r := if f.isUpper then r.map Char.toUpper
    else if f.isSwapped then
      if r.any Char.isLower && r.any Char.isUpper || r.all (!Char.isUpper ·) then r.map Char.toUpper
      else r.map Char.toLower
    else r
  let pad := if f.pad = some '0' then '0' else ' '
  match f.pad with
  | some '-' => r
  | _ => List.replicate (f.width.getD 0 - r.length) pad ++ r

end DateFlags

namespace Moment

/-- The time of a moment for the parts of a directive. -/
structure Clock where
  /-- The hour of the day. -/
  hour : Int
  /-- The minute of the hour. -/
  minute : Int
  /-- The second of the minute. -/
  second : Int

/-- The time of day of a date. -/
def clock (d : Date) : Clock where
  hour := Int.fdiv d.time 3600
  minute := Int.fmod (Int.fdiv d.time 60) 60
  second := Int.fmod d.time 60

/-- The nanoseconds of a moment in digits. A width says how many of them are written,
    and without padding none is that is an idle zero. -/
def fraction (m : Moment) (f : DateFlags) : Raw :=
  let digits := (Padding.mk (some '0') 9).number m.nanoseconds
  let r := match f.width with
    | some width => digits.take width ++ List.replicate (width - 9) '0'
    | Option.none => digits
  match f.pad with
  | some '-' => (r.reverse.dropWhile (· = '0')).reverse
  | some '_' =>
    let kept := (r.reverse.dropWhile (· = '0')).reverse
    kept ++ List.replicate (r.length - kept.length) ' '
  | _ => r

/-- What a directive that stands for others stands for. -/
def composite? : Char → Option Raw
  | 'c' => some "%a %b %e %H:%M:%S %Y".toList
  | 'D' | 'x' => some "%m/%d/%y".toList
  | 'F' => some "%Y-%m-%d".toList
  | 'r' => some "%I:%M:%S %p".toList
  | 'R' => some "%H:%M".toList
  | 'T' | 'X' => some "%H:%M:%S".toList
  | 'h' => some "%b".toList
  | _ => none

/-- What a directive with a letter of its own is written as. -/
def directive? (m : Moment) (zone : Raw) (f : DateFlags) (c : Char) : Option Raw :=
  let d := m.date
  let t := clock d
  let number (pad : Char) (width : Nat) (n : Int) : Option Raw :=
    some ((f.padding pad width).number n)
  let name (names : List String) (n : Int) : Raw := (names.getD n.toNat "").toList
  let hour12 := if Int.fmod t.hour 12 = 0 then 12 else Int.fmod t.hour 12
  let half : Raw := if t.hour < 12 then "AM" else "PM"
  match c with
  | '%' => some (f.text ['%'])
  | 'n' => some (f.text ['\n'])
  | 't' => some (f.text ['\t'])
  | 'a' => some (f.text ((name weekdayNames d.weekday).take 3))
  | 'A' => some (f.text (name weekdayNames d.weekday))
  | 'b' => some (f.text ((name monthNames (d.month - 1)).take 3))
  | 'B' => some (f.text (name monthNames (d.month - 1)))
  | 'C' => number '0' 2 (Int.fdiv d.year 100)
  | 'd' => number '0' 2 d.day
  | 'e' => number ' ' 2 d.day
  | 'g' => number '0' 2 (Int.fmod d.weekOfYear.1 100)
  | 'G' => number '0' 4 d.weekOfYear.1
  | 'H' => number '0' 2 t.hour
  | 'I' => number '0' 2 hour12
  | 'j' => number '0' 3 (d.yearDay + 1)
  | 'k' => number ' ' 2 t.hour
  | 'l' => number ' ' 2 hour12
  | 'm' => number '0' 2 d.month
  | 'M' => number '0' 2 t.minute
  | 'N' => some (m.fraction f)
  | 'p' => some (f.text (if f.isSwapped then half.map Char.toLower else half))
  | 'P' => some (f.text (half.map Char.toLower))
  | 'q' => number '0' 1 (Int.fdiv (d.month - 1) 3 + 1)
  | 's' => number '0' 1 m.seconds
  | 'S' => number '0' 2 t.second
  | 'u' => number '0' 1 (if d.weekday = 0 then 7 else d.weekday)
  | 'U' => number '0' 2 (d.week 0)
  | 'V' => number '0' 2 d.weekOfYear.2
  | 'w' => number '0' 1 d.weekday
  | 'W' => number '0' 2 (d.week 1)
  | 'y' => number '0' 2 (Int.fmod d.year 100)
  | 'Y' => number '0' 4 d.year
  | 'z' => some (f.text "+0000".toList)
  | 'Z' => some (f.text (if f.isSwapped then zone.map Char.toLower else zone))
  | _ => none

/-- A moment in a format, at most `n` characters of it. Directives that stand for
    others are written by `whole`. -/
def formatWith (m : Moment) (zone : Raw) (whole : Raw → Raw) : (n : Nat) → Raw → Raw
  | 0, _ => []
  | _ + 1, [] => []
  | n + 1, '%' :: rest =>
    let (f, after) := DateFlags.none.read rest
    let bare := match after with
      | 'E' :: c :: rest | 'O' :: c :: rest => c :: rest
      | after => after
    let colons := (bare.takeWhile (· = ':')).length
    match bare.drop colons with
    | 'z' :: left =>
      let offset : Option String := ["+0000", "+00:00", "+00:00:00", "+00"][colons]?
      match offset with
      | some r => f.text r.toList ++ formatWith m zone whole n left
      | none => '%' :: formatWith m zone whole n rest
    | c :: left =>
      if colons ≠ 0 then '%' :: formatWith m zone whole n rest
      else match composite? c with
        | some inner => f.text (whole inner) ++ formatWith m zone whole n left
        | none =>
          match m.directive? zone f c with
          | some r => r ++ formatWith m zone whole n left
          | none => '%' :: formatWith m zone whole n rest
    | [] => '%' :: formatWith m zone whole n rest
  | n + 1, c :: rest => c :: formatWith m zone whole n rest

/-- **Formatting** a moment. -/
def format (m : Moment) (zone : Raw) (r : Raw) : Raw :=
  let simple (r : Raw) : Raw := m.formatWith zone (fun _ => []) r.length r
  m.formatWith zone simple r.length r

end Moment

/-! ## Durations -/

/-- **Duration**, in nanoseconds. -/
abbrev Duration := Nat

namespace Duration

/-- One second. -/
def second : Duration := 1000000000

/-- The duration of so many seconds, in decimal digits with a point. -/
def ofDecimal? (r : Raw) : Option Duration := do
  let whole := r.takeWhile (· ≠ '.')
  let fraction := (r.drop whole.length).drop 1
  if whole.isEmpty && fraction.isEmpty then failure
  if !(whole ++ fraction).all Char.isDigit then failure
  let digits := (fraction ++ List.replicate 9 '0').take 9
  return ((Raw.toNat? whole).getD 0) * second + (Raw.toNat? digits).getD 0

/-- How many seconds a letter stands for. -/
def unit? : Raw → Option Nat
  | [] | ['s'] => some 1
  | ['m'] => some 60
  | ['h'] => some 3600
  | ['d'] => some 86400
  | _ => none

/-- The duration that a text says. -/
def ofRaw? (r : Raw) : Option Duration := do
  let number := r.takeWhile fun c => c.isDigit || c = '.'
  return (← ofDecimal? number) * (← unit? (r.drop number.length))

end Duration

end MapAudit.Script
