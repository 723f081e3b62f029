import RoutePlan.Mail
import RoutePlan.Numeral
import RoutePlan.Text.Blank
import RoutePlan.Text.Segments
import RoutePlan.Value.Compact

/-!
# Kinds of parameters

A parameter has one of five kinds.  Four convert a value and one, `mail`, tests
the text of a value and leaves the value as it is.  Whole doubles become
integers, so that a default of `1` equals a request value `"1"`.
-/

namespace RoutePlan

/-- The kind of a parameter. -/
inductive ParamKind where
  | number | string | boolean | object | mail
deriving DecidableEq, Inhabited

/-- Why a value does not fit a kind.  The text is that of the value. -/
inductive CastError where
  | notNumber (text : String)
  | notMail (text : String)
deriving DecidableEq

namespace CastError

/-- The status that every failed cast asks for. -/
def code (_ : CastError) : Nat := 400

/-- The wording. -/
def message : CastError → String
  | notNumber text => text ++ " is not a number"
  | notMail text => "'" ++ text ++ "' doesn't match MAIL pattern"

end CastError

/-- A double as a number: an integer when it is whole and within 64 signed bits,
where `2^63` itself is held to the greatest integer. -/
def wholeOrDouble (x : Binary64) : Number :=
  match x.toInt? with
  | none => .double x
  | some n =>
      if -9223372036854775808 ≤ n ∧ n ≤ 9223372036854775808 then
        (Number.ofInt? (min n 9223372036854775807)).getD (.double x)
      else .double x

/-- The radix that a numeral's first two characters select, and its digits. -/
def splitRadix : List Char → Option (Nat × List Char)
  | '0' :: mark :: digits =>
      if mark = 'x' ∨ mark = 'X' then some (16, digits)
      else if mark = 'o' ∨ mark = 'O' then some (8, digits)
      else if mark = 'b' ∨ mark = 'B' then some (2, digits)
      else none
  | _ => none

/-- The double that a numeral without white space around it says: digits of 64
bits after `0x`, `0o` or `0b`, or a decimal literal. -/
def numeralDouble? (text : List Char) : Option Binary64 :=
  match splitRadix text with
  | some (radix, digits) =>
      (readNaturalBelow? radix UInt64.size digits).bind fun n => Binary64.ofInt n
  | none => (DecimalLiteral.read? text).bind DecimalLiteral.nearest

/-- The number that a text says; white space around it does not count, and
nothing at all is zero. -/
def textNumber? (text : String) : Option Number :=
  let trimmed := Text.trimChars text.toList
  if trimmed = [] then some (.ofNat 0) else (numeralDouble? trimmed).map wholeOrDouble

/-- The truth of a value.  Among strings only the empty one, `false` and `0` are
false. -/
def truth : Value → Bool
  | .string text => text != "" && text != "false" && text != "0"
  | .bool flag => flag
  | .number n => !n.isZero
  | .null => false
  | .list _ => true
  | .map _ => true

namespace ParamKind

/-- Every kind. -/
def all : List ParamKind :=
  [number, string, boolean, object, mail]

/-- The canonical upper-case name. -/
def name : ParamKind → String
  | number => "NUMBER"
  | string => "STRING"
  | boolean => "BOOLEAN"
  | object => "OBJECT"
  | mail => "MAIL"

/-- Read a kind; case and white space around it do not count. -/
def parse? (name : String) : Option ParamKind :=
  all.find? fun kind => Text.equalIgnoringCase kind.name (Text.trim name)

/-- Convert a value to a number. -/
def castNumber (value : Value) : Except CastError Value :=
  match value with
  | .number n => .ok (.number n)
  | .bool flag => .ok (.number (.ofNat flag.toNat (by cases flag <;> decide)))
  | .null => .ok (.number (.ofNat 0))
  | .string text =>
      match textNumber? text with
      | some n => .ok (.number n)
      | none => .error (.notNumber value.text)
  | .list _ => .error (.notNumber value.text)
  | .map _ => .error (.notNumber value.text)

/-- Convert a present value to the kind, or test it. -/
def cast (kind : ParamKind) (value : Value) : Except CastError Value :=
  match kind with
  | number => castNumber value
  | string => .ok (.string value.text)
  | boolean => .ok (.bool (truth value))
  | object => .ok value
  | mail => if Mail.isAddress value.text.toList then .ok value else .error (.notMail value.text)

end ParamKind

end RoutePlan
