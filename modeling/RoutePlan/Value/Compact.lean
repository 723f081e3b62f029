import RoutePlan.Binary64.Shortest
import RoutePlan.Value

/-!
# Compact JSON text

A value as JSON without spaces.  Quotes, backslashes and control characters are
escaped, everything else stands as it is.  Doubles are written with the fewest
digits that read back, positionally between `1e-5` and `1e16`.

`Value.text` is the text that parameters and messages show: a string as it is,
any other value as compact JSON.
-/

namespace RoutePlan

/-- Doubles are positional from `1e-5` up to `1e16`, whole ones end with `.0`,
and an exponent always has a sign. -/
def compactLayout : Binary64.Layout :=
  ⟨-5, 16, ".0", "e", "+"⟩

namespace Compact

/-- One lower-case hexadecimal digit. -/
def hexDigit (n : Nat) : Char :=
  Nat.digitChar n

/-- A character inside a quoted string. -/
def escapeChar (c : Char) : List Char :=
  match c with
  | '"' => ['\\', '"']
  | '\\' => ['\\', '\\']
  | '\x08' => ['\\', 'b']
  | '\x0c' => ['\\', 'f']
  | '\n' => ['\\', 'n']
  | '\r' => ['\\', 'r']
  | '\t' => ['\\', 't']
  | c =>
      if c.toNat < 0x20 then
        ['\\', 'u', '0', '0', hexDigit (c.toNat / 16), hexDigit (c.toNat % 16)]
      else [c]

/-- A string between quotes. -/
def quoted (text : String) : List Char :=
  '"' :: text.toList.flatMap escapeChar ++ ['"']

/-- An integer in decimal. -/
def integer (n : Int) : List Char :=
  if n < 0 then '-' :: Nat.toDigits 10 n.natAbs else Nat.toDigits 10 n.natAbs

/-- A number. -/
def number : Number → List Char
  | .integer n _ => integer n
  | .double x => x.write compactLayout

mutual

/-- The compact JSON of a value. -/
def value : Value → List Char
  | .null => "null".toList
  | .bool true => "true".toList
  | .bool false => "false".toList
  | .number n => number n
  | .string text => quoted text
  | .list items => '[' :: elements items ++ [']']
  | .map entries => '\x7b' :: members entries ++ ['\x7d']

/-- The items of a list, separated by commas. -/
def elements : List Value → List Char
  | [] => []
  | [item] => value item
  | item :: rest => value item ++ ',' :: elements rest

/-- The entries of a mapping, separated by commas. -/
def members : List (String × Value) → List Char
  | [] => []
  | [(key, held)] => quoted key ++ ':' :: value held
  | (key, held) :: rest => quoted key ++ ':' :: value held ++ ',' :: members rest

end

end Compact

namespace Value

/-- The compact JSON of a value. -/
def compact (v : Value) : String :=
  String.ofList (Compact.value v)

/-- A string as it is, anything else as compact JSON. -/
def text : Value → String
  | .string text => text
  | other => other.compact

end Value

end RoutePlan
