import TableReconciler.Notice

/-!
# Log lines

How records are written: the time, the name of the logger, the level and the message, and a colour
for each level if colours are wanted.
-/

namespace TableReconciler

/-- Why a log cannot be written. -/
structure UnknownLevel where
  /-- The text that names no level. -/
  text : String
  deriving DecidableEq, Repr

/-- The wording of the fault. -/
def UnknownLevel.message (fault : UnknownLevel) : String :=
  "Unknown level: " ++ Text.quoted fault.text

namespace LogFormat

/-! ## Times -/

/-- A date of the Gregorian calendar. -/
structure Date where
  /-- The year. -/
  year : Int
  /-- The month, from one. -/
  month : Int
  /-- The day of the month, from one. -/
  day : Int
  deriving DecidableEq, Repr

/-- The date a number of days after the first of January 1970.  Years are counted from March, so
that the leap day is the last day of its year. -/
def dateOfDays (days : Int) : Date :=
  let sinceMarch := days + 719468
  let era := sinceMarch / 146097
  let dayOfEra := sinceMarch % 146097
  let yearOfEra := (dayOfEra - dayOfEra / 1460 + dayOfEra / 36524 - dayOfEra / 146096) / 365
  let dayOfYear := dayOfEra - (365 * yearOfEra + yearOfEra / 4 - yearOfEra / 100)
  let monthFromMarch := (5 * dayOfYear + 2) / 153
  let month := if monthFromMarch < 10 then monthFromMarch + 3 else monthFromMarch - 9
  { year := yearOfEra + era * 400 + (if month ≤ 2 then 1 else 0)
    month
    day := dayOfYear - (153 * monthFromMarch + 2) / 5 + 1 }

/-- A number with at least `width` digits. -/
def padded (width : Nat) (n : Int) : String :=
  let digits := Nat.toDigits 10 n.natAbs
  String.ofList (List.replicate (width - digits.length) '0' ++ digits)

/-- The first year that a time can be written in. -/
def firstYear : Int := 1900 - Int.pow 2 31

/-- The last year that a time can be written in. -/
def lastYear : Int := Int.pow 2 31 - 1

/-- The time a number of milliseconds after the start of 1970, with a comma before the
milliseconds, if its year can be written.  A time before the start counts from the whole second
before it. -/
def timestamp? (milliseconds : Int) : Option String := do
  let seconds := milliseconds / 1000
  let date := dateOfDays (seconds / 86400)
  let time := seconds % 86400
  guard (firstYear ≤ date.year ∧ date.year ≤ lastYear)
  return toString date.year ++ "-" ++ padded 2 date.month ++ "-" ++ padded 2 date.day ++ " " ++
    padded 2 (time / 3600) ++ ":" ++ padded 2 (time / 60 % 60) ++ ":" ++ padded 2 (time % 60) ++
    "," ++ padded 3 (milliseconds % 1000)

/-! ## Levels -/

/-- The numbers of the level names, two of which have a synonym. -/
def levelNumbers : List (String × Int) := [
    ("NOTSET", 0), ("DEBUG", 10), ("INFO", 20), ("WARNING", 30), ("WARN", 30), ("ERROR", 40),
    ("CRITICAL", 50), ("FATAL", 50)]

/-- The number of a level name. -/
def levelNumber (name : String) : Except UnknownLevel Int :=
  match levelNumbers.lookup name with
  | some number => .ok number
  | none => .error ⟨name⟩

/-- The name of a level number; the first of two synonyms, and a made-up name for a number that
has none. -/
def levelName (number : Int) : String :=
  ((levelNumbers.find? (·.2 == number)).map (·.1)).getD ("Level " ++ toString number)

/-- The terminal sequence with a given code. -/
def sequence (code : String) : String :=
  "\x1b[" ++ code ++ "m"

/-- The terminal sequence that ends all colours. -/
def reset : String := sequence "0"

/-- The colour of a level. -/
def colour (number : Int) : String :=
  if number = 10 then sequence "37"
  else if number = 20 then sequence "34"
  else if number = 30 then sequence "33"
  else if number = 40 then sequence "31"
  else if number = 50 then sequence "1" ++ sequence "41" ++ sequence "30"
  else reset

/-! ## Lines -/

/-- A record of a log. -/
structure Record where
  /-- The number of the level. -/
  level : Int
  /-- The milliseconds since the start of 1970. -/
  milliseconds : Int
  /-- The message. -/
  message : String
  deriving DecidableEq, Repr

/-- The line of a record, if its time can be written. -/
def line? (name : String) (coloured : Bool) (r : Record) : Option String := do
  let time ← timestamp? r.milliseconds
  let text := time ++ " - " ++ name ++ " - " ++ levelName r.level ++ " - " ++ r.message
  return (if coloured then colour r.level ++ text ++ reset else text) ++ "\n"

/-- The lines of the records that are at least as grave as the named level.  A record whose time
cannot be written is left out. -/
def lines (level name : String) (coloured : Bool) (records : List Record) :
    Except UnknownLevel String := do
  let least ← levelNumber level
  let grave := records.filter fun r => decide (least ≤ r.level)
  return String.join (grave.filterMap (line? name coloured))

end LogFormat

end TableReconciler
