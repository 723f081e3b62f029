import RoutePlan.Numeral
import RoutePlan.Text.Segments

/-!
# Socket addresses

The grammar of the addresses that a server may be bound to: an address of four
octets or of eight groups, and a port.  Of eight groups a run of zeros may be left
out, and the last two may be written as four octets.
-/

namespace RoutePlan.Address

/-- Whether the text is a number below `2^16`. -/
def isPort (text : String) : Bool :=
  (readNaturalBelow? 10 UInt16.size text.toList).isSome

/-- Whether the text is a number below 256, written without leading zeros. -/
def isOctet (text : String) : Bool :=
  (readNaturalBelow? 10 256 text.toList).isSome && (text.length == 1 || text.front != '0')

/-- Whether the text is four octets between points. -/
def isQuad (text : String) : Bool :=
  let octets := Text.pieces '.' text
  octets.length == 4 && octets.all isOctet

/-- Whether the text is a group: one to four hexadecimal digits. -/
def isGroup (text : String) : Bool :=
  (readNatural? 16 text.toList).isSome && decide (text.length ≤ 4)

/-- How many groups a text holds between colons; four octets at its end count for
two. -/
def groupCount? (text : String) : Option Nat :=
  let groups := Text.pieces ':' text
  if text.isEmpty then some 0
  else if groups.all isGroup then some groups.length
  else if groups.dropLast.all isGroup && groups.getLast?.any isQuad then some (groups.length + 1)
  else none

/-- Split at the first two colons in a row. -/
def splitGap? : List Char → Option (List Char × List Char)
  | ':' :: ':' :: rest => some ([], rest)
  | c :: rest => (splitGap? rest).map fun (before, after) => (c :: before, after)
  | [] => none

/-- Whether the text is eight groups, or fewer around a gap. -/
def isGrouped (text : String) : Bool :=
  match splitGap? text.toList with
  | none => groupCount? text == some 8
  | some (before, after) =>
      let before := String.ofList before
      !before.contains '.' &&
        match groupCount? before, groupCount? (String.ofList after) with
        | some leading, some trailing => decide (leading + trailing ≤ 7)
        | _, _ => false

/-- Whether the text is eight groups with an optional scope, a number below
`2^32`. -/
def isScoped (text : String) : Bool :=
  match Text.splitFirst? '%' text with
  | none => isGrouped text
  | some (groups, scope) =>
      isGrouped groups && (readNaturalBelow? 10 UInt32.size scope.toList).isSome

/-- Whether the text is an address with a port; eight groups stand in brackets. -/
def isSocket (text : String) : Bool :=
  match text.toList with
  | '[' :: rest =>
      match Text.splitFirst? ']' (String.ofList rest) with
      | none => false
      | some (groups, port) =>
          isScoped groups &&
            match port.toList with
            | ':' :: port => isPort (String.ofList port)
            | _ => false
  | _ =>
      match Text.splitFirst? ':' text with
      | none => false
      | some (quad, port) => isQuad quad && isPort port

end RoutePlan.Address
