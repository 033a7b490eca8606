import MapAudit.Script.Calendar

/-! # Moments in words

    People say moments in many ways: as a date, a time of day, both, the distance
    from now, or a number of seconds. The parts of such a text may come in any
    order; each says something about the date, the time or the distance.
-/

namespace MapAudit.Script

/-- **Distance** between moments. -/
structure Distance where
  /-- Months. -/
  months : Int
  /-- Days. -/
  days : Int
  /-- Nanoseconds. -/
  nanoseconds : Int
  deriving DecidableEq, Repr

namespace Distance

/-- No distance. -/
def zero : Distance where
  months := 0
  days := 0
  nanoseconds := 0

/-- The distance the other way. -/
def back (d : Distance) : Distance where
  months := -d.months
  days := -d.days
  nanoseconds := -d.nanoseconds

/-- Two distances together. -/
def plus (d e : Distance) : Distance where
  months := d.months + e.months
  days := d.days + e.days
  nanoseconds := d.nanoseconds + e.nanoseconds

/-- So many of a unit. -/
def ofUnit? (n : Int) (r : Raw) : Option Distance :=
  let letters := r.map Char.toLower
  let singular := if letters.getLast? = some 's' && 3 < letters.length then letters.dropLast else letters
  let time (seconds : Int) : Option Distance :=
    some { zero with nanoseconds := n * seconds * Moment.secondSize }
  match String.ofList singular with
  | "year" => some { zero with months := 12 * n }
  | "month" => some { zero with months := n }
  | "fortnight" => some { zero with days := 14 * n }
  | "week" => some { zero with days := 7 * n }
  | "day" => some { zero with days := n }
  | "hour" => time 3600
  | "minute" | "min" => time 60
  | "second" | "sec" => time 1
  | _ => none

end Distance

/-- **Occasion**: what a text has said of a moment so far. -/
structure Occasion where
  /-- The year, the month and the day. -/
  day : Option (Int × Int × Int)
  /-- The nanoseconds since the start of the day. -/
  time : Option Int
  /-- How many seconds the clocks of its zone are ahead. -/
  ahead : Option Int
  /-- The day of the week, and how many times it comes by. -/
  weekday : Option (Int × Int)
  /-- How far away it is. -/
  distance : Distance
  /-- Whether a distance was said. -/
  isRelative : Bool
  /-- The moment itself. -/
  exact : Option Moment

namespace Occasion

/-- Nothing said. -/
def blank : Occasion where
  day := none
  time := none
  ahead := none
  weekday := none
  distance := .zero
  isRelative := false
  exact := none

/-! ## Parts -/

/-- The nanoseconds that the digits after a point stand for. -/
def fractionOf (r : Raw) : Int :=
  ((Raw.toNat? ((r ++ List.replicate 9 '0').take 9)).getD 0 : Nat)

/-- A number of seconds with a fraction. -/
def secondsOf? (r : Raw) : Option Moment := do
  let (isBack, r) := match r with
    | '-' :: r => (true, r)
    | '+' :: r => (false, r)
    | r => (false, r)
  let whole := r.takeWhile Char.isDigit
  let n : Int := (← Raw.toNat? whole : Nat)
  let fraction ← match r.drop whole.length with
    | [] => some 0
    | c :: digits =>
      if (c = '.' || c = ',') && !digits.isEmpty && digits.all Char.isDigit then
        some (fractionOf digits)
      else none
  let total := n * Moment.secondSize + fraction
  return .ofNanoseconds (if isBack then -total else total)

/-- A year as it is written, perhaps with two digits. -/
def yearOf (r : Raw) : Option Int := do
  let n ← Raw.toNat? r
  return if r.length ≤ 2 then (if n < 69 then 2000 + n else 1900 + n : Nat) else (n : Nat)

/-- A number of digits, at most so many. -/
def smallNumber? (width : Nat) (r : Raw) : Option Int := do
  if width < r.length then failure
  return ((← Raw.toNat? r : Nat) : Int)

/-- A day in digits with marks between them. -/
def dayOf? (r : Raw) : Option (Int × Int × Int) :=
  match r.splitOn '-', r.splitOn '/' with
  | [year, month, day], _ => do
    match smallNumber? 2 month with
    | some month => return (← yearOf year, month, ← smallNumber? 2 day)
    | none => return (← yearOf day, (← placeOfName? monthNames month : Nat) + 1, ← smallNumber? 2 year)
  | _, [a, b, c] => do
    if 3 < a.length then return (← yearOf a, ← smallNumber? 2 b, ← smallNumber? 2 c)
    else return (← yearOf c, ← smallNumber? 2 a, ← smallNumber? 2 b)
  | _, _ =>
    if r.length = 8 && r.all Char.isDigit then do
      return (← smallNumber? 4 (r.take 4), ← smallNumber? 2 ((r.drop 4).take 2),
        ← smallNumber? 2 (r.drop 6))
    else none

/-- The zone that letters, or digits behind a sign, stand for. -/
def zoneOf? (r : Raw) : Option Int :=
  match r with
  | '+' :: digits | '-' :: digits => do
    let sign : Int := if r.head? = some '-' then -1 else 1
    let (hours, minutes) ← match digits.splitOn ':' with
      | [hours, minutes] => some (hours, minutes)
      | [digits] => some (if 2 < digits.length
          then (digits.take (digits.length - 2), digits.drop (digits.length - 2))
          else (digits, ['0']))
      | _ => none
    return sign * (3600 * (← smallNumber? 2 hours) + 60 * (← smallNumber? 2 minutes))
  | r =>
    match String.ofList (r.map Char.toUpper) with
    | "Z" | "UTC" | "GMT" | "UT" => some 0
    | _ => none

/-- The nanoseconds of hours, minutes and seconds. -/
def timeOf (hours minutes nanoseconds : Int) : Option Int :=
  if 0 ≤ hours && hours < 24 && minutes < 60 && nanoseconds < 61 * Moment.secondSize then
    some ((hours * 3600 + minutes * 60) * Moment.secondSize + nanoseconds)
  else none

/-- The hour of the day for an hour of a half of the day. -/
def hourOf? (half : Raw) (hours : Int) : Option Int :=
  match String.ofList (half.map Char.toLower) with
  | "am" | "a.m." => if 1 ≤ hours && hours ≤ 12 then some (Int.fmod hours 12) else none
  | "pm" | "p.m." => if 1 ≤ hours && hours ≤ 12 then some (Int.fmod hours 12 + 12) else none
  | _ => none

/-- A time of day, and the zone behind it. -/
def clockOf? (r : Raw) : Option (Int × Option Int) := do
  let isClock (c : Char) : Bool := c.isDigit || c = ':' || c = '.' || c = ','
  let digits := r.takeWhile isClock
  let rest := r.drop digits.length
  let (hours, minutes, nanoseconds) ← match digits.splitOn ':' with
    | [hours, minutes] => do
      some (← smallNumber? 2 hours, ← smallNumber? 2 minutes, (0 : Int))
    | [hours, minutes, seconds] => do
      let m ← secondsOf? seconds
      some (← smallNumber? 2 hours, ← smallNumber? 2 minutes, m.total)
    | _ => none
  match rest with
  | [] => return (← timeOf hours minutes nanoseconds, none)
  | rest =>
    match hourOf? rest hours with
    | some hours => return (← timeOf hours minutes nanoseconds, none)
    | none => return (← timeOf hours minutes nanoseconds, some (← zoneOf? rest))

/-- Takes a day and a time with a letter between them apart. -/
def dayAndTime? (r : Raw) : Option (Raw × Raw) :=
  let day := r.takeWhile fun c => c ≠ 'T' && c ≠ 't'
  match r.drop day.length with
  | _ :: time => if day.all (fun c => c.isDigit || c = '-') && time.head?.any Char.isDigit
      then some (day, time) else none
  | [] => none

/-- A number with a sign or without one. -/
def signedNumber? (r : Raw) : Option Int :=
  match r with
  | '+' :: digits => (Raw.toNat? digits).map fun n => (n : Nat)
  | '-' :: digits => (Raw.toNat? digits).map fun n => -(n : Int)
  | digits => (Raw.toNat? digits).map fun n => (n : Nat)

/-- How often words count. -/
def ordinal? (r : Raw) : Option Int :=
  match String.ofList (r.map Char.toLower) with
  | "last" => some (-1)
  | "this" => some 0
  | "next" => some 1
  | "a" | "an" => some 1
  | _ => none

/-! ## Texts -/

/-- Adds a distance. -/
def away (o : Occasion) (d : Distance) : Occasion :=
  { o with distance := o.distance.plus d, isRelative := true }

/-- Takes in a time of day with its zone. -/
def atTime (o : Occasion) (part : Int × Option Int) : Option Occasion :=
  if o.time.isSome then none
  else some { o with time := some part.1, ahead := part.2.orElse fun _ => o.ahead }

/-- Takes in a day. -/
def onDay (o : Occasion) (day : Int × Int × Int) : Option Occasion :=
  if o.day.isSome then none else some { o with day := some day }

/-- Takes in a word by itself. -/
def word? (o : Occasion) (r : Raw) : Option Occasion :=
  match String.ofList (r.map Char.toLower) with
  | "now" | "today" => some { o with isRelative := true }
  | "yesterday" => some (o.away { Distance.zero with days := -1 })
  | "tomorrow" => some (o.away { Distance.zero with days := 1 })
  | "ago" => if o.isRelative then some { o with distance := o.distance.back } else none
  | _ =>
    match Distance.ofUnit? 1 r, placeOfName? weekdayNames r, zoneOf? r with
    | some d, _, _ => some (o.away d)
    | none, some day, _ => if o.weekday.isSome then none else some { o with weekday := some (day, 0) }
    | none, none, some ahead => some { o with ahead := some ahead }
    | none, none, none => none

/-- Takes in a part that is just digits. -/
def digits? (o : Occasion) (r : Raw) : Option Occasion :=
  match o.day with
  | some (_, month, day) =>
    if 2 < r.length || o.time.isSome then do
      return { o with day := some (← yearOf r, month, day) }
    else none
  | none => none

/-- The time of day that bare digits stand for. -/
def bareTime? (o : Occasion) (r : Raw) : Option Occasion := do
  if 4 < r.length || !r.all Char.isDigit then failure
  let hours := if r.length ≤ 2 then r else r.take (r.length - 2)
  let minutes := if r.length ≤ 2 then ['0'] else r.drop (r.length - 2)
  o.atTime (← timeOf (← smallNumber? 2 hours) (← smallNumber? 2 minutes) 0, none)

/-- Takes in the parts of a text. The year that a month and a day lie in is `year`
    unless it is said. -/
def takeIn (year : Int) (o : Occasion) : (n : Nat) → List Raw → Option Occasion
  | 0, _ => none
  | _ + 1, [] => some o
  | n + 1, ['@'] :: r :: rest => takeIn year o n (('@' :: r) :: rest)
  | n + 1, ('@' :: r) :: rest => do
    if !rest.isEmpty then failure
    takeIn year { o with exact := some (← secondsOf? r) } n rest
  | n + 1, ['+'] :: r :: rest => takeIn year o n (('+' :: r) :: rest)
  | n + 1, ['-'] :: r :: rest => takeIn year o n (('-' :: r) :: rest)
  | n + 1, r :: rest =>
    match clockOf? r, dayOf? r, dayAndTime? r with
    | some (time, zone), _, _ =>
      match zone, rest with
      | none, half :: others =>
        match hourOf? half (Int.fdiv time (3600 * Moment.secondSize)) with
        | some hours => do
          let time := hours * 3600 * Moment.secondSize
            + Int.fmod time (3600 * Moment.secondSize)
          takeIn year (← o.atTime (time, none)) n others
        | none => do
          let isZone := (half.head? = some '+' || half.head? = some '-')
            && (others.head?.bind (Distance.ofUnit? 1)).isNone
          match if isZone then zoneOf? half else none with
          | some ahead => takeIn year (← o.atTime (time, some ahead)) n others
          | none => takeIn year (← o.atTime (time, none)) n rest
      | _, _ => do takeIn year (← o.atTime (time, zone)) n rest
    | none, some day, _ => do takeIn year (← o.onDay day) n rest
    | none, none, some (day, time) => do
      takeIn year (← (← o.onDay (← dayOf? day)).atTime (← clockOf? time)) n rest
    | none, none, none =>
      let digits := r.takeWhile Char.isDigit
      let behind := r.drop digits.length
      match signedNumber? r, rest with
      | some count, unit :: others =>
        match Distance.ofUnit? count unit, placeOfName? monthNames unit, hourOf? unit count with
        | some d, _, _ => takeIn year (o.away d) n others
        | none, some month, _ => do
          takeIn year (← o.onDay (year, (month : Nat) + 1, count)) n others
        | none, none, some hours => do
          takeIn year (← o.atTime (← timeOf hours 0 0, none)) n others
        | none, none, none => do
          takeIn year (← (o.digits? r).orElse fun _ => o.bareTime? r) n rest
      | some _, [] => do takeIn year (← (o.digits? r).orElse fun _ => o.bareTime? r) n []
      | none, _ =>
        match placeOfName? monthNames r, rest, ordinal? r with
        | some month, day :: others, _ => do
          takeIn year (← o.onDay (year, (month : Nat) + 1, ← smallNumber? 2 day)) n others
        | _, unit :: others, some count =>
          match Distance.ofUnit? count unit, placeOfName? weekdayNames unit with
          | some d, _ => takeIn year (o.away d) n others
          | none, some day =>
            if o.weekday.isSome then none
            else takeIn year { o with weekday := some (day, count) } n others
          | none, none => none
        | _, _, _ =>
          if !digits.isEmpty && !behind.isEmpty then
            match hourOf? behind (((Raw.toNat? digits).getD 0 : Nat) : Int) with
            | some hours => do takeIn year (← o.atTime (← timeOf hours 0 0, none)) n rest
            | none => do
              takeIn year (o.away (← Distance.ofUnit? (← signedNumber? digits) behind)) n rest
          else do takeIn year (← o.word? r) n rest

/-- The moment of an occasion, seen from now. -/
def moment? (o : Occasion) (now : Moment) : Option Moment := do
  match o.exact with
  | some m => return m
  | none =>
    let today := now.date
    let (year, month, day) := o.day.getD (today.year, today.month, today.day)
    let date : Date := { year, month, day, time := 0 }
    if !date.isUsual then failure
    let isFresh := o.day.isSome || o.weekday.isSome || !o.isRelative
    let time := match o.time with
      | some time => time
      | none => if isFresh then 0 else today.time * Moment.secondSize + now.nanoseconds
    let date := match o.weekday, o.day with
      | some (weekday, count), none =>
        let ahead := Int.fmod (weekday - date.weekday) 7
        let weeks := if 0 < count && ahead ≠ 0 then count - 1 else count
        { date with day := date.day + ahead + 7 * weeks }
      | _, _ => date
    let date := { date with
      month := date.month + o.distance.months, day := date.day + o.distance.days }
    let total := date.seconds * Moment.secondSize + time
      - (o.ahead.getD 0) * Moment.secondSize + o.distance.nanoseconds
    return .ofNanoseconds total

end Occasion

namespace Moment

/-- The parts of a text that says a moment. -/
def partsOf (r : Raw) : List Raw :=
  let blank (c : Char) : Char := if c = ',' || c = '\t' || c = '\n' then ' ' else c
  ((r.map blank).splitOn ' ').filter (!·.isEmpty)

/-- **Reading** a moment, seen from now. -/
def ofRaw? (now : Moment) (r : Raw) : Option Moment := do
  let parts := partsOf r
  (← Occasion.blank.takeIn now.date.year (2 * parts.length + 2) parts).moment? now

/-- Reading a moment in digits alone: the month, day, hour and minute in two each,
    perhaps with the year before them and the second after a point. -/
def ofStamp? (now : Moment) (r : Raw) : Option Moment := do
  let digits := r.takeWhile Char.isDigit
  let second ← match r.drop digits.length with
    | [] => some 0
    | '.' :: second => if second.length = 2 then Occasion.smallNumber? 2 second else none
    | _ => none
  let before := digits.take (digits.length - 8)
  if digits.length < 8 then failure
  let year ← match before.length with
    | 0 => some now.date.year
    | 2 | 4 => Occasion.yearOf before
    | _ => none
  let part (i : Nat) : Option Int :=
    Occasion.smallNumber? 2 (((digits.drop before.length).drop (2 * i)).take 2)
  let hour ← part 2
  let minute ← part 3
  let date : Date := { year, month := ← part 0, day := ← part 1
                       time := hour * 3600 + minute * 60 + second }
  if !date.isUsual || 24 ≤ hour || 60 ≤ minute || 61 ≤ second then failure
  return { seconds := date.seconds, nanoseconds := 0 }

end Moment

end MapAudit.Script
