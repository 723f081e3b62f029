import RoutePlan.Numeral
import RoutePlan.Value

/-!
# What plain scalars mean

A scalar without quotes and tag is null, a boolean, an integer, a double or else
a string.  Digits behind a needless leading zero are a string.  An integer beyond
64 bits is malformed up to 128 bits and a double above; an infinite literal that
is spelled with digits is a string.  Infinities and NaN have no value: they are
null.
-/

namespace RoutePlan.Yaml

/-- The spellings of null. -/
def isNullText (text : String) : Bool :=
  ["null", "Null", "NULL", "~"].contains text

/-- The spellings of booleans. -/
def boolText? (text : String) : Option Bool :=
  if ["true", "True", "TRUE"].contains text then some true
  else if ["false", "False", "FALSE"].contains text then some false
  else none

/-- Take a plus off the front. -/
def dropPlus : List Char → List Char
  | '+' :: rest => rest
  | rest => rest

/-- Take one sign off the front. -/
def dropSign : List Char → List Char
  | '+' :: rest => rest
  | '-' :: rest => rest
  | rest => rest

/-- Two or more digits, the first of them zero, perhaps behind a sign. -/
def hasLeadingZero (text : List Char) : Bool :=
  match dropSign text with
  | '0' :: c :: rest => (c :: rest).all Char.isDigit
  | _ => false

/-- A natural in decimal, or with a lower-case radix mark. -/
def naturalText? : List Char → Option Nat
  | '0' :: 'x' :: digits => readNatural? 16 digits
  | '0' :: 'o' :: digits => readNatural? 8 digits
  | '0' :: 'b' :: digits => readNatural? 2 digits
  | digits => readNatural? 10 digits

/-- The integer that a text spells, of any size. -/
def integerText? (text : List Char) : Option Int :=
  if hasLeadingZero text then none
  else
    match text with
    | '-' :: rest => (naturalText? rest).map fun n => -(n : Int)
    | text => (naturalText? (dropPlus text)).map fun n => (n : Int)

/-- What an integer of a document is. -/
inductive IntegerSize where
  | fits (n : Number)
  | tooWide
  | huge

/-- Sort an integer by the bits that it needs: 64 with or without a sign, 128 with or
without one, or more. -/
def sizeOfInteger (n : Int) : IntegerSize :=
  match Number.ofInt? n with
  | some number => .fits number
  | none =>
      if -170141183460469231731687303715884105728 ≤ n ∧
          n < 340282366920938463463374607431768211456 then .tooWide
      else .huge

/-- The value of a double that a text spells: null for infinities and NaN. -/
def doubleText? (text : List Char) : Option Value :=
  let unsigned := dropPlus text
  let spelled (spellings : List String) (text : List Char) : Bool :=
    spellings.contains (String.ofList text)
  if text ≠ unsigned ∧ dropSign unsigned ≠ unsigned then none
  else if spelled [".inf", ".Inf", ".INF"] unsigned then some .null
  else if spelled ["-.inf", "-.Inf", "-.INF", ".nan", ".NaN", ".NAN"] text then some .null
  else ((DecimalLiteral.read? unsigned).bind DecimalLiteral.nearest).map fun x =>
    .number (.double x)

/-- The value of a plain scalar without tag, unless it is malformed. -/
def plainValue? (text : String) : Option Value :=
  let chars := text.toList
  let asDouble : Value :=
    if hasLeadingZero chars then .string text else (doubleText? chars).getD (.string text)
  if text = "" ∨ isNullText text then some .null
  else
    match boolText? text with
    | some flag => some (.bool flag)
    | none =>
        match (integerText? chars).map sizeOfInteger with
        | some (.fits n) => some (.number n)
        | some .tooWide => none
        | some .huge => some asDouble
        | none => some asDouble

/-- The value of a scalar whose tag is `int`. -/
def taggedInteger? (text : String) : Option Value :=
  match (integerText? text.toList).map sizeOfInteger with
  | some (.fits n) => some (.number n)
  | _ => none

/-- The value of a scalar with a tag that is not local.  A tag that is not one of
null, booleans and numbers leaves the text as it is. -/
def taggedValue? (tag text : String) : Option Value :=
  if tag = "tag:yaml.org,2002:bool" then (boolText? text).map .bool
  else if tag = "tag:yaml.org,2002:int" then taggedInteger? text
  else if tag = "tag:yaml.org,2002:float" then doubleText? text.toList
  else if tag = "tag:yaml.org,2002:null" then if isNullText text then some .null else none
  else some (.string text)

end RoutePlan.Yaml
