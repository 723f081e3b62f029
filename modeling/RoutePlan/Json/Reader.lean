import RoutePlan.Json.Token

/-!
# Reading JSON

A text is read by one pass over its tokens with the stack of the lists and
mappings that are still open.  At most 127 may be open at a time.  A repeated
key keeps its first position and its last value.
-/

namespace RoutePlan.Json

/-- The depth of lists and mappings that is still read. -/
def maxDepth : Nat := 127

/-- A list or mapping that is still open. -/
inductive Frame where
  | list (reversed : List Value)
  | map (entries : Entries String Value) (key : String)

/-- What the next token may be. -/
inductive Expectation where
  /-- A value. -/
  | value
  /-- A value, or the end of the list that was just opened. -/
  | firstItem
  /-- A key. -/
  | key (entries : Entries String Value)
  /-- A key, or the end of the mapping that was just opened. -/
  | firstKey
  /-- The colon after a key. -/
  | colon (entries : Entries String Value) (key : String)
  /-- A comma or an end, the value before it being finished. -/
  | after (value : Value)

/-- The open lists and mappings, innermost first, and what may follow. -/
structure Reading where
  stack : List Frame
  expects : Expectation

/-- Open a list or mapping, unless too many are open. -/
def openFrame (frame : Frame) (stack : List Frame) (expects : Expectation) : Option Reading :=
  if stack.length < maxDepth then some ⟨frame :: stack, expects⟩ else none

/-- A token where a value may stand. -/
def valueToken (stack : List Frame) : Token → Option Reading
  | .string text => some ⟨stack, .after (.string text)⟩
  | .literal value => some ⟨stack, .after value⟩
  | .openList => openFrame (.list []) stack .firstItem
  | .openMap => openFrame (.map [] "") stack .firstKey
  | _ => none

/-- A token after a finished value. -/
def afterToken (stack : List Frame) (value : Value) : Token → Option Reading
  | .comma =>
      match stack with
      | .list reversed :: outer => some ⟨.list (value :: reversed) :: outer, .value⟩
      | .map entries key :: outer =>
          let entries := Entries.insert key value entries
          some ⟨.map entries "" :: outer, .key entries⟩
      | [] => none
  | .closeList =>
      match stack with
      | .list reversed :: outer => some ⟨outer, .after (.list (value :: reversed).reverse)⟩
      | _ => none
  | .closeMap =>
      match stack with
      | .map entries key :: outer =>
          some ⟨outer, .after (.map (Entries.insert key value entries))⟩
      | _ => none
  | _ => none

/-- One token of the text. -/
def readStep (reading : Reading) (token : Token) : Option Reading :=
  match reading.expects with
  | .value => valueToken reading.stack token
  | .firstItem =>
      match token with
      | .closeList => some ⟨reading.stack.drop 1, .after (.list [])⟩
      | token => valueToken reading.stack token
  | .key entries =>
      match token with
      | .string key => some ⟨reading.stack, .colon entries key⟩
      | _ => none
  | .firstKey =>
      match token with
      | .closeMap => some ⟨reading.stack.drop 1, .after (.map [])⟩
      | .string key => some ⟨reading.stack, .colon [] key⟩
      | _ => none
  | .colon entries key =>
      match token with
      | .colon => some ⟨.map entries key :: reading.stack.drop 1, .value⟩
      | _ => none
  | .after value => afterToken reading.stack value token

/-- The value that a finished reading holds. -/
def finished? (reading : Reading) : Option Value :=
  match reading.stack, reading.expects with
  | [], .after value => some value
  | _, _ => none

/-- Read a text that is one JSON value with blanks around it. -/
def read? (text : String) : Option Value :=
  ((tokens? text.toList).bind fun tokens => tokens.foldlM readStep ⟨[], .value⟩).bind finished?

end RoutePlan.Json
