import RoutePlan.Binary64
import RoutePlan.Entries

/-!
# Values

What a route document, a request body or a request parameter holds: null,
booleans, numbers, strings, lists and mappings.  A mapping keeps the order of
its declarations.

A number is an integer of 64 bits, signed or unsigned, or a finite double; the
two are told apart even when they are equal as numbers.
-/

namespace RoutePlan

/-- An integer between `-2^63` and `2^64 - 1`, or a finite double. -/
inductive Number where
  | integer (n : Int)
      (bounds : -9223372036854775808 ≤ n ∧ n < 18446744073709551616 := by decide)
  | double (x : Binary64)
deriving DecidableEq, Inhabited

namespace Number

/-- The integer as a number, when 64 bits hold it. -/
def ofInt? (n : Int) : Option Number :=
  if bounds : -9223372036854775808 ≤ n ∧ n < 18446744073709551616 then
    some (.integer n bounds)
  else none

/-- A natural below `2^64` as a number. -/
def ofNat (n : Nat) (bound : n < 18446744073709551616 := by decide) : Number :=
  .integer n ⟨by omega, by omega⟩

/-- Whether the number is zero, of either sign. -/
def isZero : Number → Bool
  | .integer n _ => n == 0
  | .double x => x.isZero

/-- The natural that an integer is.  A double is none, even `200.0`. -/
def toNat? : Number → Option Nat
  | .integer n _ => if 0 ≤ n then some n.toNat else none
  | .double _ => none

end Number

/-- A document value. -/
inductive Value where
  | null
  | bool (flag : Bool)
  | number (n : Number)
  | string (text : String)
  | list (items : List Value)
  | map (entries : List (String × Value))
deriving Inhabited

namespace Value

/-- The empty mapping. -/
def emptyMap : Value :=
  .map []

/-- The value under `key`, when the value is a mapping that declares it. -/
def field? (key : String) : Value → Option Value
  | .map entries => entries.lookup key
  | _ => none

/-- The entries of a mapping; anything else has none. -/
def entriesOrNone : Value → Entries String Value
  | .map entries => entries
  | _ => []

/-- Whether the value is null. -/
def isNull : Value → Bool
  | .null => true
  | _ => false

/-- What kind of value this is, as messages say it. -/
def kindName : Value → String
  | .null => "null"
  | .bool _ => "a boolean"
  | .number _ => "a number"
  | .string _ => "a string"
  | .list _ => "a list"
  | .map _ => "a mapping"

end Value

end RoutePlan
