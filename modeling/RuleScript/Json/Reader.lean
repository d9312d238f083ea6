import RuleScript.Double.Nearest
import RuleScript.Json.Basic

/-!
Reading a JSON document: the strict grammar, no more than 127 arrays and objects inside one
another, and no number beyond the range of doubles. A whole number that fits in 64 bits stays
whole; another number is brought together from up to 64 bits of its digits and a power of ten.
-/
namespace RuleScript.Json

/-- White space between the parts of a document. -/
def isGap (c : Char) : Bool :=
  c = ' ' || c = '\n' || c = '\t' || c = '\r'

def skipGap (source : List Char) : List Char :=
  source.dropWhile isGap

/-- The value of a hexadecimal digit. -/
def hexValue? (c : Char) : Option Nat :=
  if c.isDigit then some (c.toNat - '0'.toNat)
  else if 'a' ≤ c ∧ c ≤ 'f' then some (c.toNat - 'a'.toNat + 10)
  else if 'A' ≤ c ∧ c ≤ 'F' then some (c.toNat - 'A'.toNat + 10)
  else none

/-- The value of four hexadecimal digits. -/
def hexWord? (a b c d : Char) : Option Nat := do
  pure ((((← hexValue? a) * 16 + (← hexValue? b)) * 16 + (← hexValue? c)) * 16 + (← hexValue? d))

/-- The first half of a surrogate pair. -/
def isHighHalf (word : Nat) : Bool :=
  0xD800 ≤ word && word ≤ 0xDBFF

/-- The second half of a surrogate pair. -/
def isLowHalf (word : Nat) : Bool :=
  0xDC00 ≤ word && word ≤ 0xDFFF

/-- The character that a letter stands for behind a backslash. -/
def escaped? : Char → Option Char
  | '"' => some '"'
  | '\\' => some '\\'
  | '/' => some '/'
  | 'b' => some '\x08'
  | 'f' => some '\x0c'
  | 'n' => some '\n'
  | 'r' => some '\r'
  | 't' => some '\t'
  | _ => none

/-- Reads a text behind its opening quote. Half a surrogate pair on its own is refused, and so is a
bare control character. -/
def readText? : List Char → Option (List Char × List Char)
  | [] => none
  | '"' :: rest => some ([], rest)
  | '\\' :: 'u' :: a :: b :: c :: d :: rest =>
    match hexWord? a b c d with
    | none => none
    | some word =>
      if isLowHalf word then none
      else if isHighHalf word then
        match rest with
        | '\\' :: 'u' :: e :: f :: g :: h :: rest =>
          match hexWord? e f g h with
          | none => none
          | some low =>
            if isLowHalf low then
              let code := 0x10000 + (word - 0xD800) * 0x400 + (low - 0xDC00)
              (readText? rest).map fun (s, rest) => (Char.ofNat code :: s, rest)
            else none
        | _ => none
      else (readText? rest).map fun (s, rest) => (Char.ofNat word :: s, rest)
  | '\\' :: c :: rest =>
    match escaped? c with
    | some image => (readText? rest).map fun (s, rest) => (image :: s, rest)
    | none => none
  | c :: rest =>
    if c.toNat < 0x20 || c = '\\' then none
    else (readText? rest).map fun (s, rest) => (c :: s, rest)

/-- Whole numbers of digits stay below this bound. -/
def significandBound : Nat := 0x10000000000000000

/-- The value of a digit. -/
def digitValue (c : Char) : Nat :=
  c.toNat - '0'.toNat

/-- Adds digits to a significand while it stays below the bound. Gives the significand, the number
of digits taken and the digits left. -/
def takeDigits (significand taken : Nat) : List Char → Nat × Nat × List Char
  | [] => (significand, taken, [])
  | c :: rest =>
    if significand * 10 + digitValue c < significandBound then
      takeDigits (significand * 10 + digitValue c) (taken + 1) rest
    else (significand, taken, c :: rest)

/-- `x · 10 ^ exponent` in double arithmetic, with one product or quotient where the power is a
double. There is no result past the largest double. -/
def scaleDouble? (x : Float) (exponent : Int) : (steps : Nat) → Option Float
  | 0 => some x
  | steps + 1 =>
    if exponent.natAbs ≤ 308 then
      let power := Double.ofNat (tenPow exponent.natAbs)
      if 0 ≤ exponent then
        let product := x * power
        if product.isInf then none else some product
      else some (x / power)
    else if x == 0.0 then some x
    else if 0 ≤ exponent then none
    else scaleDouble? (x / Double.ofNat (tenPow 308)) (exponent + 308) steps

/-- The double for a significand and a power of ten. -/
def double? (negative : Bool) (significand : Nat) (exponent : Int) : Option JsonNumber :=
  (scaleDouble? (Double.ofNat significand) exponent 8).map fun x =>
    .double (if negative then -x else x)

/-- The largest size of an exponent that is taken as it stands. -/
def exponentBound : Nat := 0x80000000

/-- The number with an exponent written behind it. An exponent past the bound leaves zero, or
nothing where the number would be too large. -/
def withExponent? (negative : Bool) (significand : Nat) (start : Int) (down : Bool)
    (digits : List Char) : Option JsonNumber :=
  let size := digits.foldl (fun n c => n * 10 + digitValue c) 0
  if digits.isEmpty then none
  else if size < exponentBound then
    double? negative significand (if down then start - size else start + size)
  else if significand != 0 && !down then none
  else some (.double (if negative then -0.0 else 0.0))

/-- Reads what may follow the digits of a number that is not whole: an exponent, or nothing. -/
def readExponent? (negative : Bool) (significand : Nat) (start : Int) (source : List Char) :
    Option (JsonNumber × List Char) :=
  match source with
  | mark :: rest =>
    if mark = 'e' || mark = 'E' then
      let (down, rest) := match rest with
        | '+' :: rest => (false, rest)
        | '-' :: rest => (true, rest)
        | rest => (false, rest)
      (withExponent? negative significand start down (rest.takeWhile Char.isDigit)).map
        (·, rest.dropWhile Char.isDigit)
    else (double? negative significand start).map (·, source)
  | [] => (double? negative significand start).map (·, source)

/-- A whole number of 64 bits. A negative zero and a negative number that is too small are
doubles. -/
def whole (negative : Bool) (significand : Nat) : JsonNumber :=
  if !negative then .integer significand
  else if 0 < significand ∧ significand ≤ 0x8000000000000000 then .integer (-(significand : Int))
  else .double (-Double.ofNat significand)

/-- Reads a number behind its sign. -/
def readUnsigned? (negative : Bool) (source : List Char) : Option (JsonNumber × List Char) :=
  let digits := source.takeWhile Char.isDigit
  let rest := source.dropWhile Char.isDigit
  if digits.isEmpty || (digits.head? = some '0' && 1 < digits.length) then none
  else
    let (significand, _, left) := takeDigits 0 0 digits
    match rest with
    | '.' :: rest =>
      let places := rest.takeWhile Char.isDigit
      let rest := rest.dropWhile Char.isDigit
      if places.isEmpty then none
      else
        let (significand, taken, _) := takeDigits significand 0 places
        readExponent? negative significand (left.length - taken) rest
    | mark :: _ =>
      if mark = 'e' || mark = 'E' || !left.isEmpty then
        readExponent? negative significand left.length rest
      else some (whole negative significand, rest)
    | [] =>
      if left.isEmpty then some (whole negative significand, rest)
      else readExponent? negative significand left.length rest

/-- Reads a number. -/
def readNumber? : List Char → Option (JsonNumber × List Char)
  | '-' :: rest => readUnsigned? true rest
  | source => readUnsigned? false source

mutual

/-- Reads a document; `depth` more arrays and objects may open. -/
def readValue? : (steps depth : Nat) → List Char → Option (Json × List Char)
  | 0, _, _ => none
  | steps + 1, depth, source =>
    match skipGap source with
    | 'n' :: 'u' :: 'l' :: 'l' :: rest => some (.null, rest)
    | 't' :: 'r' :: 'u' :: 'e' :: rest => some (.boolean true, rest)
    | 'f' :: 'a' :: 'l' :: 's' :: 'e' :: rest => some (.boolean false, rest)
    | '"' :: rest => (readText? rest).map fun (s, rest) => (.text (String.ofList s), rest)
    | '[' :: rest =>
      match depth with
      | 0 => none
      | depth + 1 =>
        match skipGap rest with
        | ']' :: rest => some (.array [], rest)
        | rest => (readItems? steps depth rest).map fun (items, rest) => (.array items, rest)
    | '\x7b' :: rest =>
      match depth with
      | 0 => none
      | depth + 1 =>
        match skipGap rest with
        | '\x7d' :: rest => some (.object [], rest)
        | rest =>
          (readMembers? steps depth rest).map fun (members, rest) => (.ofMembers members, rest)
    | source => (readNumber? source).map fun (n, rest) => (.number n, rest)

/-- Reads the items of an array from one of them on, with the closing bracket. -/
def readItems? : (steps depth : Nat) → List Char → Option (List Json × List Char)
  | 0, _, _ => none
  | steps + 1, depth, source => do
    let (item, rest) ← readValue? steps depth source
    match skipGap rest with
    | ',' :: rest =>
      let (others, rest) ← readItems? steps depth rest
      pure (item :: others, rest)
    | ']' :: rest => pure ([item], rest)
    | _ => none

/-- Reads the members of an object from one of them on, with the closing brace. -/
def readMembers? : (steps depth : Nat) → List Char → Option (List (String × Json) × List Char)
  | 0, _, _ => none
  | steps + 1, depth, source =>
    match skipGap source with
    | '"' :: rest => do
      let (key, rest) ← readText? rest
      match skipGap rest with
      | ':' :: rest =>
        let (value, rest) ← readValue? steps depth rest
        match skipGap rest with
        | ',' :: rest =>
          let (others, rest) ← readMembers? steps depth rest
          pure ((String.ofList key, value) :: others, rest)
        | '\x7d' :: rest => pure ([(String.ofList key, value)], rest)
        | _ => none
      | _ => none
    | _ => none

end

/-- Arrays and objects inside one another, at most. -/
def depthLimit : Nat := 127

/-- Reads a whole source as one document. Every second call takes a character, so the steps are
enough. -/
def parse? (source : String) : Option Json :=
  let chars := source.toList
  match readValue? (2 * chars.length + 2) depthLimit chars with
  | some (document, rest) => if (skipGap rest).isEmpty then some document else none
  | none => none

end RuleScript.Json
