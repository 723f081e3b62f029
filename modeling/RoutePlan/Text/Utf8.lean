/-!
# UTF-8

Reading UTF-8 one octet at a time.  Between characters an octet begins one; a
lead octet says how many tail octets follow and bounds the first of them, which
excludes overlong forms, surrogates and codes above `10FFFF`.  A character that
an octet cuts short is malformed, and that octet begins a new one.

`decode?` refuses malformed text; `decodeReplacing` puts U+FFFD for each
malformed part.
-/

namespace RoutePlan.Text.Utf8

/-- A character that still owes tail octets: its bits so far, how many octets it
owes, and the bounds of the next one. -/
structure Pending where
  bits : Nat
  owed : Nat
  least : Nat
  greatest : Nat

/-- What an octet between characters is. -/
inductive Lead where
  | whole (c : Char)
  | opens (pending : Pending)
  | malformed

/-- Classify an octet between characters. -/
def lead (octet : UInt8) : Lead :=
  let b := octet.toNat
  if b < 0x80 then .whole (Char.ofNat b)
  else if b < 0xC2 then .malformed
  else if b < 0xE0 then .opens ⟨b - 0xC0, 1, 0x80, 0xBF⟩
  else if b = 0xE0 then .opens ⟨0, 2, 0xA0, 0xBF⟩
  else if b = 0xED then .opens ⟨0xD, 2, 0x80, 0x9F⟩
  else if b < 0xF0 then .opens ⟨b - 0xE0, 2, 0x80, 0xBF⟩
  else if b = 0xF0 then .opens ⟨0, 3, 0x90, 0xBF⟩
  else if b < 0xF4 then .opens ⟨b - 0xF0, 3, 0x80, 0xBF⟩
  else if b = 0xF4 then .opens ⟨4, 3, 0x80, 0x8F⟩
  else .malformed

/-- The decoded parts so far, in reverse, `none` for a malformed one, and the
character that is still pending. -/
structure Decoding where
  reversed : List (Option Char)
  pending : Option Pending

/-- Take an octet between characters. -/
def begin (reversed : List (Option Char)) (octet : UInt8) : Decoding :=
  match lead octet with
  | .whole c => ⟨some c :: reversed, none⟩
  | .opens pending => ⟨reversed, some pending⟩
  | .malformed => ⟨none :: reversed, none⟩

/-- Take one octet. -/
def step (decoding : Decoding) (octet : UInt8) : Decoding :=
  match decoding.pending with
  | none => begin decoding.reversed octet
  | some pending =>
      let b := octet.toNat
      if pending.least ≤ b ∧ b ≤ pending.greatest then
        let bits := pending.bits * 64 + (b - 0x80)
        if pending.owed = 1 then ⟨some (Char.ofNat bits) :: decoding.reversed, none⟩
        else ⟨decoding.reversed, some ⟨bits, pending.owed - 1, 0x80, 0xBF⟩⟩
      else begin (none :: decoding.reversed) octet

/-- The parts of a byte string: its characters, and `none` for each malformed
part. -/
def parts (octets : List UInt8) : List (Option Char) :=
  let decoding := octets.foldl step ⟨[], none⟩
  (if decoding.pending.isSome then none :: decoding.reversed else decoding.reversed).reverse

/-- The text of well-formed octets. -/
def decode? (octets : List UInt8) : Option String :=
  ((parts octets).mapM id).map String.ofList

/-- The text of octets, U+FFFD standing for each malformed part. -/
def decodeReplacing (octets : List UInt8) : String :=
  String.ofList ((parts octets).map fun part => part.getD '\ufffd')

/-- The octets of a text. -/
def encode (text : String) : List UInt8 :=
  text.toUTF8.toList

end RoutePlan.Text.Utf8
