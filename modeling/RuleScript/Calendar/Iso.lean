import RuleScript.Calendar.Instant
import RuleScript.Text.Blank

/-!
Dates and times in ISO 8601 text. There are two manners. The strict one has digits in fixed columns
and ends in an offset. The lenient one has no offset and is taken as universal time: blanks may
stand before each number, leading zeros may be missing, a year of more than four digits needs a
sign, and the time may be cut short or left out.
-/
namespace RuleScript

namespace Iso

/-- The number that digits spell. -/
def number (digits : List Char) : Nat :=
  digits.foldl (fun n c => n * 10 + (c.toNat - '0'.toNat)) 0

/-- Digits at the head of a text, from `least` up to `most` of them. -/
def digits? (least most : Nat) (text : List Char) : Option (List Char × List Char) :=
  let digits := (text.takeWhile Char.isDigit).take most
  if digits.length < least then none else some (digits, text.drop digits.length)

/-- A number of so many digits. -/
def number? (least most : Nat) (text : List Char) : Option (Nat × List Char) := do
  let (digits, rest) ← digits? least most text
  pure (number digits, rest)

/-- One of the given characters. -/
def char? (allowed : List Char) : List Char → Option (List Char)
  | c :: rest => if c ∈ allowed then some rest else none
  | [] => none

/-- A fraction of a second in nanoseconds; digits past the ninth are passed over. -/
def fraction? (text : List Char) : Option (Nat × List Char) := do
  let (digits, rest) ← digits? 1 9 text
  pure (number digits * tenPow (9 - digits.length), rest.dropWhile Char.isDigit)

/-- A fraction of a second behind a point, or none. -/
def optionalFraction? : List Char → Option (Nat × List Char)
  | '.' :: rest => fraction? rest
  | text => some (0, text)

/-- The sign of an offset: a plus, a hyphen or the minus sign proper. -/
def offsetSign? : List Char → Option (Int × List Char)
  | '+' :: rest => some (1, rest)
  | '-' :: rest => some (-1, rest)
  | '−' :: rest => some (-1, rest)
  | _ => none

/-- An offset from universal time in seconds. -/
def offset? (text : List Char) : Option (Int × List Char) :=
  match text with
  | 'Z' :: rest => some (0, rest)
  | 'z' :: rest => some (0, rest)
  | _ => do
    let (sign, rest) ← offsetSign? text
    let (hours, rest) ← number? 2 2 rest
    let rest ← char? [':'] rest
    let (minutes, rest) ← number? 2 2 rest
    if hours < 24 && minutes < 60 then
      pure (sign * ((hours : Int) * 3600 + minutes * 60), rest)
    else none

/-- Reads a date and time in the strict manner. -/
def strict? (text : List Char) : Option Instant := do
  let (year, rest) ← number? 4 4 text
  let rest ← char? ['-'] rest
  let (month, rest) ← number? 2 2 rest
  let rest ← char? ['-'] rest
  let (day, rest) ← number? 2 2 rest
  let rest ← char? ['T', 't', ' '] rest
  let (hour, rest) ← number? 2 2 rest
  let rest ← char? [':'] rest
  let (minute, rest) ← number? 2 2 rest
  let rest ← char? [':'] rest
  let (second, rest) ← number? 2 2 rest
  let (nanos, rest) ← optionalFraction? rest
  let (offset, rest) ← offset? rest
  if rest.isEmpty then
    let date ← Date.of? year month day
    let shown ← Instant.ofClock? date hour minute second nanos
    shown.behind? offset
  else none

/-- A year in the lenient manner. -/
def lenientYear? (text : List Char) : Option (Int × List Char) :=
  match Text.trimStart text with
  | '-' :: rest => do
    let (year, rest) ← number? 1 rest.length rest
    pure (-(year : Int), rest)
  | '+' :: rest => do
    let (year, rest) ← number? 1 rest.length rest
    pure ((year : Int), rest)
  | text => do
    let (year, rest) ← number? 1 4 text
    pure ((year : Int), rest)

/-- A number of one or two digits in the lenient manner. -/
def lenientNumber? (text : List Char) : Option (Nat × List Char) :=
  number? 1 2 (Text.trimStart text)

/-- A date in the lenient manner. -/
def lenientDate? (text : List Char) : Option (Date × List Char) := do
  let (year, rest) ← lenientYear? text
  let rest ← char? ['-'] rest
  let (month, rest) ← lenientNumber? rest
  let rest ← char? ['-'] rest
  let (day, rest) ← lenientNumber? rest
  let date ← Date.of? year month day
  pure (date, rest)

/-- Hours and minutes in the lenient manner. -/
def lenientTime? (text : List Char) : Option ((Nat × Nat) × List Char) := do
  let (hour, rest) ← lenientNumber? text
  let rest ← char? [':'] rest
  let (minute, rest) ← lenientNumber? rest
  pure ((hour, minute), rest)

/-- The separator of date and time: a letter T, or any run of blanks, also an empty one. -/
def separator? (letter : Bool) (text : List Char) : Option (List Char) :=
  if letter then char? ['T'] text else some (Text.trimStart text)

/-- Reads a date and time with seconds in the lenient manner. -/
def withSeconds? (letter : Bool) (text : List Char) : Option Instant := do
  let (date, rest) ← lenientDate? text
  let rest ← separator? letter rest
  let ((hour, minute), rest) ← lenientTime? rest
  let rest ← char? [':'] rest
  let (second, rest) ← lenientNumber? rest
  let (nanos, rest) ← optionalFraction? rest
  if rest.isEmpty then Instant.ofClock? date hour minute second nanos else none

/-- Reads a date and time without seconds in the lenient manner. -/
def withMinutes? (letter : Bool) (text : List Char) : Option Instant := do
  let (date, rest) ← lenientDate? text
  let rest ← separator? letter rest
  let ((hour, minute), rest) ← lenientTime? rest
  if rest.isEmpty then Instant.ofClock? date hour minute 0 0 else none

/-- Reads a date alone, as the start of its day. -/
def dateOnly? (text : List Char) : Option Instant := do
  let (date, rest) ← lenientDate? text
  if rest.isEmpty then some ⟨date, 0, 0⟩ else none

end Iso

/-- Reads a date, or a date and time, blanks around it aside. -/
def Instant.ofIso? (text : String) : Option Instant :=
  let chars := Text.trimChars text.toList
  Iso.strict? chars <|> Iso.withSeconds? true chars <|> Iso.withSeconds? false chars <|>
    Iso.withMinutes? true chars <|> Iso.withMinutes? false chars <|> Iso.dateOnly? chars

end RuleScript
