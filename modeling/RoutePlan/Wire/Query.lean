import RoutePlan.Entries
import RoutePlan.Numeral
import RoutePlan.Text.Utf8

/-!
# Queries

A query is a list of fields between ampersands, each a name and a value around
its first equals sign.  A plus is a space and a percent sign with two hexadecimal
digits an octet; anything else stands for itself.  Octets that are no UTF-8 are
replaced.
-/

namespace RoutePlan.Wire.Query

/-- The octets that an encoded text stands for. -/
def unescape : List UInt8 → List UInt8
  | 0x25 :: high :: low :: rest =>
      let digits := [Char.ofNat high.toNat, Char.ofNat low.toNat]
      if digits.all (isDigitOf 16) then UInt8.ofNat (naturalOf 16 digits) :: unescape rest
      else 0x25 :: unescape (high :: low :: rest)
  | 0x2B :: rest => 0x20 :: unescape rest
  | octet :: rest => octet :: unescape rest
  | [] => []

/-- The text that an encoded text stands for. -/
def decode (octets : List UInt8) : String :=
  Text.Utf8.decodeReplacing (unescape octets)

/-- A field: the name before the first equals sign and the value behind it. -/
def field (octets : List UInt8) : String × String :=
  let (name, rest) := octets.span (· != 0x3D)
  (decode name, decode (rest.drop 1))

/-- The fields of a query, in order. -/
def fields (query : String) : List (String × String) :=
  (((Text.Utf8.encode query).splitOn 0x26).filter (· ≠ [])).map field

/-- The fields by name. -/
def read (query : String) : Entries String String :=
  Entries.ofPairs (fields query)

end RoutePlan.Wire.Query
