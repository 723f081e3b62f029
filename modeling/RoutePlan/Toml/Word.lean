import RoutePlan.Numeral
import RoutePlan.Text.Segments
import RoutePlan.Value

/-!
# Words of TOML

Values without delimiters of their own: booleans, integers, floats, dates and
times.  A word is read as a whole; what is none of these has no value.

Integers have 64 bits with a sign.  A float above all doubles is an error, one
below them and the words for infinity and for no number are null.  A date or
time is a mapping with its text under one key.
-/

namespace RoutePlan.Toml

/-- The characters of words. -/
def isWordChar (c : Char) : Bool :=
  c.isAlphanum || "+-_.:".toList.contains c

/-! ## Numbers -/

/-- Digits of a radix, with the underscores between two of them left out. -/
def ungroup? (radix : Nat) (digits : List Char) : Option (List Char) :=
  let groups := digits.splitOn '_'
  if groups.all fun group => group != [] && group.all (isDigitOf radix) then some groups.flatten
  else none

/-- An integer as a value, when 64 bits with a sign hold it. -/
def integer? (n : Int) : Option Value :=
  if n < 9223372036854775808 then (Number.ofInt? n).map .number else none

/-- Read digits of a radix as an integer. -/
def readRadix? (radix : Nat) (digits : List Char) : Option Value :=
  (ungroup? radix digits).bind fun digits => integer? (naturalOf radix digits)

/-- Read the exponent of a float: a mark, an optional sign and digits. -/
def readPower? : List Char → Option Int
  | [] => some 0
  | mark :: rest =>
      if mark = 'e' ∨ mark = 'E' then
        let (negative, digits) := splitSign rest
        (ungroup? 10 digits).map fun digits =>
          let power : Int := naturalOf 10 digits
          if negative then -power else power
      else none

/-- The double nearest to a float. -/
def floatValue? (literal : DecimalLiteral) : Option Value :=
  match literal.nearest with
  | some x => some (.number (.double x))
  | none => if literal.negative then some .null else none

/-- Whether digits may be the whole part of a number: a zero stands alone. -/
def isWhole (digits : List Char) : Bool :=
  digits.head? != some '0' || digits == ['0']

/-- Read a decimal integer or a float. -/
def readDecimal? (word : List Char) : Option Value := do
  let (negative, unsigned) := splitSign word
  let (grouped, afterWhole) := unsigned.span fun c => c.isDigit || c == '_'
  let whole ← ungroup? 10 grouped
  if !isWhole whole then none
  else
    match afterWhole with
    | [] =>
        let magnitude : Int := naturalOf 10 whole
        integer? (if negative then -magnitude else magnitude)
    | '.' :: rest =>
        let (grouped, afterFraction) := rest.span fun c => c.isDigit || c == '_'
        let fraction ← ungroup? 10 grouped
        let power ← readPower? afterFraction
        floatValue? ⟨negative, naturalOf 10 (whole ++ fraction), power - fraction.length⟩
    | rest =>
        let power ← readPower? rest
        floatValue? ⟨negative, naturalOf 10 whole, power⟩

/-- Read a number of any form. -/
def readNumber? : List Char → Option Value
  | '0' :: 'x' :: digits => readRadix? 16 digits
  | '0' :: 'o' :: digits => readRadix? 8 digits
  | '0' :: 'b' :: digits => readRadix? 2 digits
  | word =>
      let (_, unsigned) := splitSign word
      if unsigned = "inf".toList ∨ unsigned = "nan".toList then some .null
      else readDecimal? word

/-! ## Dates and times -/

/-- How many days a month has. -/
def daysIn (year month : Nat) : Nat :=
  if month = 2 then
    if year % 4 = 0 ∧ (year % 100 ≠ 0 ∨ year % 400 = 0) then 29 else 28
  else if month = 4 ∨ month = 6 ∨ month = 9 ∨ month = 11 then 30
  else 31

/-- Take a date off the front: year, month and day. -/
def dropDate? : List Char → Option (List Char)
  | y₁ :: y₂ :: y₃ :: y₄ :: '-' :: m₁ :: m₂ :: '-' :: d₁ :: d₂ :: rest => do
      let year ← readNatural? 10 [y₁, y₂, y₃, y₄]
      let month ← readNatural? 10 [m₁, m₂]
      let day ← readNatural? 10 [d₁, d₂]
      if 1 ≤ month ∧ month ≤ 12 ∧ 1 ≤ day ∧ day ≤ daysIn year month then some rest else none
  | _ => none

/-- Take an hour and a minute off the front. -/
def dropMinutes? : List Char → Option (List Char)
  | h₁ :: h₂ :: ':' :: m₁ :: m₂ :: rest => do
      let _ ← readNaturalBelow? 10 24 [h₁, h₂]
      let _ ← readNaturalBelow? 10 60 [m₁, m₂]
      some rest
  | _ => none

/-- Take a time off the front: hour, minute, second and an optional fraction.
There may be a second 60. -/
def dropTime? (chars : List Char) : Option (List Char) := do
  match ← dropMinutes? chars with
  | ':' :: s₁ :: s₂ :: rest =>
      let _ ← readNaturalBelow? 10 61 [s₁, s₂]
      match rest with
      | '.' :: fraction =>
          let (digits, behind) := fraction.span Char.isDigit
          if digits = [] then none else some behind
      | _ => some rest
  | _ => none

/-- Whether the rest of a time is nothing or the distance to the standard time. -/
def isOffset : List Char → Bool
  | [] => true
  | [zone] => zone == 'Z' || zone == 'z'
  | sign :: distance => (sign == '+' || sign == '-') && dropMinutes? distance == some []

/-- Whether a word is a date, a time or both. -/
def isMoment (word : List Char) : Bool :=
  dropTime? word == some [] ||
    match dropDate? word with
    | none => false
    | some [] => true
    | some (mark :: time) =>
        "Tt ".toList.contains mark && ((dropTime? time).map isOffset).getD false

/-! ## Words -/

/-- Read a word. -/
def wordValue? (word : List Char) : Option Value :=
  if word = "true".toList then some (.bool true)
  else if word = "false".toList then some (.bool false)
  else if isMoment word then some (.map [("moment", .string (String.ofList word))])
  else readNumber? word

/-- Take a word off the front.  A single space may stand between a date and its
time. -/
def takeWord (chars : List Char) : List Char × List Char :=
  let (word, rest) := chars.span isWordChar
  if dropDate? word = some [] then
    match rest with
    | ' ' :: behind =>
        let (time, after) := behind.span isWordChar
        if time = [] then (word, rest) else (word ++ ' ' :: time, after)
    | _ => (word, rest)
  else (word, rest)

end RoutePlan.Toml
