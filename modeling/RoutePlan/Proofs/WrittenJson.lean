import Mathlib.Tactic.IntervalCases
import RoutePlan.Json.Reader
import RoutePlan.Value.Compact
import RoutePlan.Proofs.Entries
import RoutePlan.Proofs.Numeral

/-!
# Written JSON is read back

The compact text of a value tells tokens, one value after the other, and the tokens are read to
the value again.  This holds of every value without doubles in which no mapping has a key twice
and lists and mappings are nested at most as deep as is read.  Doubles are left out: reading one
is quick rather than exact.
-/

namespace RoutePlan

/-- A value without doubles and without repeated keys, whose lists and mappings are nested at
most so deep. -/
inductive Value.Exact : Nat → Value → Prop where
  | null {depth : Nat} : Exact depth .null
  | bool {depth : Nat} (flag : Bool) : Exact depth (.bool flag)
  | integer {depth : Nat} (n : Int)
      (bounds : -9223372036854775808 ≤ n ∧ n < 18446744073709551616) :
      Exact depth (.number (.integer n bounds))
  | string {depth : Nat} (text : String) : Exact depth (.string text)
  | list {depth : Nat} {items : List Value} (inside : ∀ item ∈ items, Exact depth item) :
      Exact (depth + 1) (.list items)
  | map {depth : Nat} {entries : Entries String Value} (distinct : (Entries.keys entries).Nodup)
      (inside : ∀ entry ∈ entries, Exact depth entry.2) : Exact (depth + 1) (.map entries)

namespace Json

/-! ## Integers -/

/-- The digits of a natural have no needless zero in front. -/
theorem head?_toDigits {n : Nat} (positive : 0 < n) : (Nat.toDigits 10 n).head? ≠ some '0' := by
  induction n using Nat.strong_induction_on with
  | _ n ih =>
      rcases lt_or_ge n 10 with small | large
      · rw [Nat.toDigits_of_lt_base small]
        interval_cases n <;> decide
      · rw [Nat.toDigits_of_base_le (by decide) large,
          List.head?_append_of_ne_nil _ (List.ne_nil_of_length_pos Nat.length_toDigits_pos)]
        exact ih (n / 10) (by omega) (by omega)

/-- All digits of a natural of 64 bits are taken in. -/
theorem foldl_wholeDigit_toDigits {n : Nat} (small : n < UInt64.size) :
    (Nat.toDigits 10 n).foldl Leading.wholeDigit ⟨0, 0, false⟩ = ⟨n, 0, false⟩ := by
  induction n using Nat.strong_induction_on with
  | _ n ih =>
      have step (held count : Nat) (digit : count < 10) (fits : held * 10 + count < UInt64.size) :
          Leading.wholeDigit ⟨held, 0, false⟩ count.digitChar = ⟨held * 10 + count, 0, false⟩ := by
        rw [Leading.wholeDigit, (Numeral.digitValue_digitChar count (by omega)).1,
          if_pos ⟨rfl, fits⟩]
      rcases lt_or_ge n 10 with single | more
      · rw [Nat.toDigits_of_lt_base single]
        exact (step 0 n single (by omega)).trans (by rw [Nat.zero_mul, Nat.zero_add])
      · rw [Nat.toDigits_of_base_le (by decide) more, List.foldl_append,
          ih (n / 10) (by omega) (by omega)]
        exact (step (n / 10) (n % 10) (by omega) (by omega)).trans (by congr 1; omega)

theorem isDigit_of_mem_toDigits {n : Nat} {c : Char} (member : c ∈ Nat.toDigits 10 n) :
    c.isDigit = true :=
  Nat.isDigit_of_mem_toDigits (by decide) le_rfl member

/-- Digits of 64 bits, with or without a minus, are read as an integer literal. -/
theorem readNumber?_digits {n : Nat} (small : n < UInt64.size) (negative : Bool) :
    readNumber? ((if negative then ['-'] else []) ++ Nat.toDigits 10 n) =
      integerLiteral negative ⟨n, 0, false⟩ := by
  have digits : ∀ c ∈ Nat.toDigits 10 n, isDigitOf 10 c = true :=
    fun _ member => Numeral.isDigitOf_of_isDigit (isDigit_of_mem_toDigits member)
  have whole := List.takeWhile_eq_self_iff.2 digits
  have nothing := List.dropWhile_eq_nil_iff.2 digits
  have leading : ¬(Nat.toDigits 10 n = [] ∨
      ((Nat.toDigits 10 n).head? = some '0' ∧ (Nat.toDigits 10 n).length ≠ 1)) := by
    rintro (empty | ⟨zero, long⟩)
    · exact List.ne_nil_of_length_pos Nat.length_toDigits_pos empty
    · rcases Nat.eq_zero_or_pos n with rfl | positive
      · exact long rfl
      · exact head?_toDigits positive zero
  have taken := foldl_wholeDigit_toDigits small
  unfold readNumber?
  cases negative with
  | true =>
      simp only [if_true, List.singleton_append, List.span_eq_takeWhile_dropWhile, whole, nothing,
        if_neg leading, taken]
  | false =>
      have unsigned : ∀ rest, Nat.toDigits 10 n ≠ '-' :: rest := by
        intro rest shape
        exact absurd (digits '-' (shape ▸ List.mem_cons_self)) (by decide)
      rw [if_neg Bool.false_ne_true, List.nil_append]
      split
      next sign text split =>
        split at split
        · next shape => exact absurd shape (unsigned _)
        · cases split
          simp only [List.span_eq_takeWhile_dropWhile, whole, nothing, if_neg leading, taken]

/-- A written integer is read back. -/
theorem readNumber?_integer (n : Int)
    (bounds : -9223372036854775808 ≤ n ∧ n < 18446744073709551616) :
    readNumber? (Compact.integer n) = some (.integer n bounds) := by
  have small : n.natAbs < UInt64.size := by
    have size : UInt64.size = 18446744073709551616 := rfl
    omega
  unfold Compact.integer
  split
  · next negative =>
      have magnitude : -(n.natAbs : Int) = n := by omega
      have read := readNumber?_digits small true
      rw [if_pos rfl, List.singleton_append] at read
      rw [read, integerLiteral, if_neg Bool.false_ne_true, if_pos rfl,
        if_neg (by dsimp only; omega), Number.ofInt?, dif_pos (by dsimp only; omega)]
      simp only [magnitude]
  · next natural =>
      have magnitude : (n.natAbs : Int) = n := by omega
      have read := readNumber?_digits small false
      rw [if_neg Bool.false_ne_true, List.nil_append] at read
      rw [read, integerLiteral, if_neg Bool.false_ne_true, if_neg Bool.false_ne_true,
        Number.ofInt?, dif_pos (by dsimp only; omega)]
      simp only [magnitude]

/-! ## What a text tells -/

theorem scanStep_word (tokens : List Token) (reversed : List Char) (c : Char) :
    scanStep ⟨tokens, .word reversed⟩ c =
      if isWordChar c then some ⟨tokens, .word (c :: reversed)⟩
      else (finishWord ⟨tokens, .word reversed⟩).bind fun tokens => beginToken tokens c :=
  rfl

theorem scanStep_plain (tokens : List Token) (reversed : List Char) (c : Char) :
    scanStep ⟨tokens, .string reversed .plain⟩ c =
      if c = '"' then some ⟨.string (String.ofList reversed.reverse) :: tokens, .between⟩
      else (stringStep reversed .plain c).map fun mode => ⟨tokens, mode⟩ :=
  rfl

/-- A scan has found these tokens, the last perhaps a word that the next delimiter ends. -/
structure Finishes (scan : Scan) (tokens : List Token) : Prop where
  whole : finishWord scan = some tokens
  delimited : ∀ c, isWordChar c = false → scanStep scan c = beginToken tokens c

theorem Finishes.between (tokens : List Token) : Finishes ⟨tokens, .between⟩ tokens :=
  ⟨rfl, fun _ _ => rfl⟩

theorem Finishes.word {word : List Char} {value : Value} (said : wordValue? word = some value)
    (tokens : List Token) : Finishes ⟨tokens, .word word.reverse⟩ (.literal value :: tokens) := by
  have whole : finishWord ⟨tokens, .word word.reverse⟩ = some (.literal value :: tokens) := by
    simp only [finishWord, List.reverse_reverse, said, Option.map_some]
  refine ⟨whole, fun c delimiter => ?_⟩
  rw [scanStep_word, if_neg (Bool.eq_false_iff.1 delimiter), whole, Option.bind_some]

/-- A text tells tokens: scanned behind other tokens, it adds these. -/
def Tells (text : List Char) (said : List Token) : Prop :=
  ∀ tokens, ∃ scan, text.foldlM scanStep ⟨tokens, .between⟩ = some scan ∧
    Finishes scan (said.reverse ++ tokens)

/-- A character that is a token of its own. -/
def IsMark (c : Char) (token : Token) : Prop :=
  isWordChar c = false ∧ ∀ tokens, beginToken tokens c = some ⟨token :: tokens, .between⟩

theorem Tells.nil : Tells [] [] :=
  fun tokens => ⟨_, rfl, .between tokens⟩

theorem Tells.mark_cons {c : Char} {token : Token} {rest : List Char} {more : List Token}
    (mark : IsMark c token) (tells : Tells rest more) : Tells (c :: rest) (token :: more) := by
  intro tokens
  obtain ⟨scan, scanned, finishes⟩ := tells (token :: tokens)
  refine ⟨scan, ?_, ?_⟩
  · have begun : scanStep ⟨tokens, .between⟩ c = some ⟨token :: tokens, .between⟩ := mark.2 tokens
    rw [List.foldlM_cons, begun]
    exact scanned
  · rw [List.reverse_cons, List.append_assoc]
    exact finishes

/-- Texts on both sides of a mark tell their tokens on both sides of its token. -/
theorem Tells.append_mark {text rest : List Char} {said more : List Token} {c : Char}
    {token : Token} (before : Tells text said) (mark : IsMark c token) (behind : Tells rest more) :
    Tells (text ++ c :: rest) (said ++ token :: more) := by
  intro tokens
  obtain ⟨middle, scanned, finishes⟩ := before tokens
  obtain ⟨scan, scannedRest, finishesRest⟩ := behind (token :: (said.reverse ++ tokens))
  refine ⟨scan, ?_, ?_⟩
  · rw [List.foldlM_append, scanned]
    have begun := (finishes.delimited c mark.1).trans (mark.2 _)
    show List.foldlM scanStep middle (c :: rest) = some scan
    rw [List.foldlM_cons, begun]
    exact scannedRest
  · rw [List.reverse_append, List.reverse_cons, List.append_assoc, List.append_assoc]
    exact finishesRest

/-! ### Words -/

theorem beginToken_of_isWordChar {c : Char} (word : isWordChar c = true) (tokens : List Token) :
    beginToken tokens c = some ⟨tokens, .word [c]⟩ := by
  unfold beginToken
  split
  case h_12 => rw [if_pos word]
  all_goals exact absurd word (by decide)

theorem scan_wordChars {chars : List Char} (word : ∀ c ∈ chars, isWordChar c = true)
    (tokens : List Token) (reversed : List Char) :
    chars.foldlM scanStep ⟨tokens, .word reversed⟩ =
      some ⟨tokens, .word (chars.reverse ++ reversed)⟩ := by
  induction chars generalizing reversed with
  | nil => rfl
  | cons c rest ih =>
      obtain ⟨first, others⟩ := List.forall_mem_cons.1 word
      have step : scanStep ⟨tokens, .word reversed⟩ c = some ⟨tokens, .word (c :: reversed)⟩ := by
        rw [scanStep_word, if_pos first]
      rw [List.foldlM_cons, step, List.reverse_cons, List.append_assoc]
      exact ih others _

/-- A word tells the value that it stands for. -/
theorem Tells.word {c : Char} {rest : List Char} {value : Value}
    (word : ∀ letter ∈ c :: rest, isWordChar letter = true)
    (said : wordValue? (c :: rest) = some value) : Tells (c :: rest) [.literal value] := by
  intro tokens
  obtain ⟨first, others⟩ := List.forall_mem_cons.1 word
  have begun : scanStep ⟨tokens, .between⟩ c = some ⟨tokens, .word [c]⟩ :=
    beginToken_of_isWordChar first tokens
  refine ⟨_, ?_, Finishes.word said tokens⟩
  rw [List.foldlM_cons, begun, List.reverse_cons]
  exact scan_wordChars others tokens [c]

theorem tells_null : Tells "null".toList [.literal .null] :=
  .word (List.all_eq_true.1 rfl) rfl

theorem tells_true : Tells "true".toList [.literal (.bool true)] :=
  .word (List.all_eq_true.1 rfl) rfl

theorem tells_false : Tells "false".toList [.literal (.bool false)] :=
  .word (List.all_eq_true.1 rfl) rfl

theorem isWordChar_of_isDigit {c : Char} (digit : c.isDigit = true) : isWordChar c = true := by
  simp [isWordChar, Char.isAlphanum, digit]

/-- A written integer is no name. -/
theorem wordValue?_integer {first : Char} {rest : List Char} {number : Number}
    (unnamed : first = '-' ∨ first.isDigit = true)
    (read : readNumber? (first :: rest) = some number) :
    wordValue? (first :: rest) = some (.number number) := by
  have apart {name : Char} (letter : name ≠ '-' ∧ name.isDigit = false) (others : List Char) :
      first :: rest ≠ name :: others := by
    rintro same
    obtain ⟨rfl, _⟩ := List.cons.inj same
    rcases unnamed with minus | digit
    · exact letter.1 minus
    · exact Bool.false_ne_true (letter.2.symm.trans digit)
  have nullApart : first :: rest ≠ "null".toList := apart (by decide) _
  have trueApart : first :: rest ≠ "true".toList := apart (by decide) _
  have falseApart : first :: rest ≠ "false".toList := apart (by decide) _
  rw [wordValue?, if_neg nullApart, if_neg trueApart, if_neg falseApart, read]
  rfl

theorem tells_integer (n : Int) (bounds : -9223372036854775808 ≤ n ∧ n < 18446744073709551616) :
    Tells (Compact.integer n) [.literal (.number (.integer n bounds))] := by
  have read := readNumber?_integer n bounds
  unfold Compact.integer at read ⊢
  split at read
  · next negative =>
      rw [if_pos negative]
      refine .word ?_ (wordValue?_integer (.inl rfl) read)
      exact List.forall_mem_cons.2 ⟨rfl, fun _ member =>
        isWordChar_of_isDigit (isDigit_of_mem_toDigits member)⟩
  · next natural =>
      rw [if_neg natural]
      have digits : ∀ c ∈ Nat.toDigits 10 n.natAbs, c.isDigit = true :=
        fun _ => isDigit_of_mem_toDigits
      obtain ⟨first, rest, shape⟩ := List.exists_cons_of_ne_nil
        (List.ne_nil_of_length_pos (Nat.length_toDigits_pos (b := 10) (n := n.natAbs)))
      rw [shape] at digits read ⊢
      exact .word (fun c member => isWordChar_of_isDigit (digits c member))
        (wordValue?_integer (.inr (digits first List.mem_cons_self)) read)

/-! ### Strings -/

/-- A control character is read back from its hexadecimal escape. -/
theorem scan_hexEscape {code : Nat} (control : code < 0x20) (tokens : List Token)
    (reversed : List Char) :
    ['\\', 'u', '0', '0', Compact.hexDigit (code / 16), Compact.hexDigit (code % 16)].foldlM
        scanStep ⟨tokens, .string reversed .plain⟩ =
      some ⟨tokens, .string (Char.ofNat code :: reversed) .plain⟩ := by
  interval_cases code <;> rfl

/-- A written character is read back inside a string. -/
theorem scan_escapeChar (c : Char) (tokens : List Token) (reversed : List Char) :
    (Compact.escapeChar c).foldlM scanStep ⟨tokens, .string reversed .plain⟩ =
      some ⟨tokens, .string (c :: reversed) .plain⟩ := by
  unfold Compact.escapeChar
  split
  case h_8 unquoted unescaped _ _ _ _ _ =>
    split
    · next control => rw [scan_hexEscape control, Char.ofNat_toNat]
    · next printed =>
        have step : scanStep ⟨tokens, .string reversed .plain⟩ c =
            some ⟨tokens, .string (c :: reversed) .plain⟩ := by
          rw [scanStep_plain, if_neg unquoted, stringStep, if_neg unescaped, if_neg printed]
          rfl
        rw [List.foldlM_cons, step]
        rfl
  all_goals rfl

theorem scan_escapedChars (chars : List Char) (tokens : List Token) (reversed : List Char) :
    (chars.flatMap Compact.escapeChar).foldlM scanStep ⟨tokens, .string reversed .plain⟩ =
      some ⟨tokens, .string (chars.reverse ++ reversed) .plain⟩ := by
  induction chars generalizing reversed with
  | nil => rfl
  | cons c rest ih =>
      rw [List.flatMap_cons, List.foldlM_append, scan_escapeChar, List.reverse_cons,
        List.append_assoc]
      exact ih (c :: reversed)

/-- A written string tells the string. -/
theorem tells_quoted (text : String) : Tells (Compact.quoted text) [.string text] := by
  intro tokens
  refine ⟨_, ?_, .between _⟩
  rw [Compact.quoted, List.cons_append, List.foldlM_cons]
  show List.foldlM scanStep ⟨tokens, .string [] .plain⟩ _ = _
  rw [List.foldlM_append, scan_escapedChars]
  show scanStep ⟨tokens, .string (text.toList.reverse ++ []) .plain⟩ '"' >>= pure = _
  rw [scanStep_plain, if_pos rfl, List.append_nil, List.reverse_reverse, String.ofList_toList]
  rfl

/-! ### Values -/

mutual

/-- The tokens of a value. -/
def tokens : Value → List Token
  | .null => [.literal .null]
  | .bool flag => [.literal (.bool flag)]
  | .number n => [.literal (.number n)]
  | .string text => [.string text]
  | .list items => .openList :: elementTokens items ++ [.closeList]
  | .map entries => .openMap :: memberTokens entries ++ [.closeMap]

/-- The tokens of the items of a list. -/
def elementTokens : List Value → List Token
  | [] => []
  | [item] => tokens item
  | item :: rest => tokens item ++ .comma :: elementTokens rest

/-- The tokens of the entries of a mapping. -/
def memberTokens : List (String × Value) → List Token
  | [] => []
  | [(key, held)] => .string key :: .colon :: tokens held
  | (key, held) :: rest => .string key :: .colon :: tokens held ++ .comma :: memberTokens rest

end

theorem elementTokens_cons_cons (item next : Value) (rest : List Value) :
    elementTokens (item :: next :: rest) =
      tokens item ++ .comma :: elementTokens (next :: rest) :=
  rfl

theorem memberTokens_cons_cons (key : String) (held : Value) (next : String × Value)
    (rest : List (String × Value)) :
    memberTokens ((key, held) :: next :: rest) =
      .string key :: .colon :: tokens held ++ .comma :: memberTokens (next :: rest) :=
  rfl

theorem isMark_openList : IsMark '[' .openList :=
  ⟨rfl, fun _ => rfl⟩

theorem isMark_closeList : IsMark ']' .closeList :=
  ⟨rfl, fun _ => rfl⟩

theorem isMark_openMap : IsMark '\x7b' .openMap :=
  ⟨rfl, fun _ => rfl⟩

theorem isMark_closeMap : IsMark '\x7d' .closeMap :=
  ⟨rfl, fun _ => rfl⟩

theorem isMark_comma : IsMark ',' .comma :=
  ⟨rfl, fun _ => rfl⟩

theorem isMark_colon : IsMark ':' .colon :=
  ⟨rfl, fun _ => rfl⟩

theorem tells_elements {items : List Value}
    (inside : ∀ item ∈ items, Tells (Compact.value item) (tokens item)) :
    Tells (Compact.elements items) (elementTokens items) := by
  induction items with
  | nil => exact .nil
  | cons item rest ih =>
      obtain ⟨first, others⟩ := List.forall_mem_cons.1 inside
      cases rest with
      | nil => exact first
      | cons next rest => exact first.append_mark isMark_comma (ih others)

theorem tells_members {entries : List (String × Value)}
    (inside : ∀ entry ∈ entries, Tells (Compact.value entry.2) (tokens entry.2)) :
    Tells (Compact.members entries) (memberTokens entries) := by
  induction entries with
  | nil => exact .nil
  | cons entry rest ih =>
      obtain ⟨key, held⟩ := entry
      obtain ⟨first, others⟩ := List.forall_mem_cons.1 inside
      have named := (tells_quoted key).append_mark isMark_colon first
      cases rest with
      | nil => exact named
      | cons next rest => exact named.append_mark isMark_comma (ih others)

/-- The compact text of a value tells its tokens. -/
theorem tells_value {depth : Nat} {value : Value} (exact : value.Exact depth) :
    Tells (Compact.value value) (tokens value) := by
  induction exact with
  | null => exact tells_null
  | bool flag =>
      cases flag with
      | true => exact tells_true
      | false => exact tells_false
  | integer n bounds => exact tells_integer n bounds
  | string text => exact tells_quoted text
  | list _ ih =>
      exact .mark_cons isMark_openList ((tells_elements ih).append_mark isMark_closeList .nil)
  | map _ _ ih =>
      exact .mark_cons isMark_openMap ((tells_members ih).append_mark isMark_closeMap .nil)

/-! ## What tokens are read to -/

/-- Tokens are read to a value where so many lists and mappings may still be opened. -/
def Reads (depth : Nat) (said : List Token) (value : Value) : Prop :=
  ∀ stack : List Frame, stack.length + depth ≤ maxDepth →
    said.foldlM readStep ⟨stack, .value⟩ = some ⟨stack, .after value⟩

/-- No token of a value ends the list in which the value stands first. -/
theorem read_firstItem (value : Value) (more : List Token) (stack : List Frame) :
    (tokens value ++ more).foldlM readStep ⟨stack, .firstItem⟩ =
      (tokens value ++ more).foldlM readStep ⟨stack, .value⟩ := by
  cases value <;> rw [tokens] <;> rfl

theorem read_firstElement (item : Value) (rest : List Value) (more : List Token)
    (stack : List Frame) :
    (elementTokens (item :: rest) ++ more).foldlM readStep ⟨stack, .firstItem⟩ =
      (elementTokens (item :: rest) ++ more).foldlM readStep ⟨stack, .value⟩ := by
  cases rest with
  | nil => exact read_firstItem item more stack
  | cons next rest =>
      rw [elementTokens_cons_cons, List.append_assoc]
      exact read_firstItem item _ stack

theorem read_firstMember (entry : String × Value) (rest : Entries String Value)
    (more : List Token) (stack : List Frame) :
    (memberTokens (entry :: rest) ++ more).foldlM readStep ⟨stack, .firstKey⟩ =
      (memberTokens (entry :: rest) ++ more).foldlM readStep ⟨stack, .key []⟩ := by
  cases rest <;> rfl

/-- The items of a list are read behind those that are gathered. -/
theorem read_elements {depth : Nat} {item : Value} {rest : List Value}
    (inside : ∀ held ∈ item :: rest, Reads depth (tokens held) held) (reversed : List Value)
    {outer : List Frame} (room : outer.length + 1 + depth ≤ maxDepth) :
    (elementTokens (item :: rest) ++ [Token.closeList]).foldlM readStep
        ⟨.list reversed :: outer, .value⟩ =
      some ⟨outer, .after (.list (reversed.reverse ++ item :: rest))⟩ := by
  induction rest generalizing item reversed with
  | nil =>
      have first := inside item List.mem_cons_self (.list reversed :: outer) room
      rw [elementTokens, List.foldlM_append, first, ← List.reverse_cons]
      rfl
  | cons next rest ih =>
      obtain ⟨head, others⟩ := List.forall_mem_cons.1 inside
      have first := head (.list reversed :: outer) room
      have behind := ih others (item :: reversed)
      rw [List.reverse_cons, List.append_assoc] at behind
      rw [elementTokens_cons_cons, List.append_assoc, List.foldlM_append, first]
      exact behind

/-- An entry is read up to the end of its value, which is not gathered yet. -/
theorem read_member {depth : Nat} {held : Value} (inside : Reads depth (tokens held) held)
    (key : String) (gathered : Entries String Value) (frame : Frame) {outer : List Frame}
    (room : outer.length + 1 + depth ≤ maxDepth) :
    (Token.string key :: .colon :: tokens held).foldlM readStep ⟨frame :: outer, .key gathered⟩ =
      some ⟨.map gathered key :: outer, .after held⟩ :=
  inside (.map gathered key :: outer) room

/-- The entries of a mapping are read behind those that are gathered, if their keys are new. -/
theorem read_members {depth : Nat} {key : String} {held : Value} {rest : Entries String Value}
    (inside : ∀ entry ∈ (key, held) :: rest, Reads depth (tokens entry.2) entry.2)
    (gathered : Entries String Value)
    (distinct : (Entries.keys (gathered ++ (key, held) :: rest)).Nodup) (frame : Frame)
    {outer : List Frame} (room : outer.length + 1 + depth ≤ maxDepth) :
    (memberTokens ((key, held) :: rest) ++ [Token.closeMap]).foldlM readStep
        ⟨frame :: outer, .key gathered⟩ =
      some ⟨outer, .after (.map (gathered ++ (key, held) :: rest))⟩ := by
  -- the entries that are gathered grow at the end, where a new key is inserted
  induction rest generalizing key held gathered frame with
  | nil =>
      have first := read_member (inside _ List.mem_cons_self) key gathered frame room
      rw [memberTokens, List.foldlM_append, first, ← Entries.insert_of_nodup distinct]
      rfl
  | cons next rest ih =>
      obtain ⟨head, others⟩ := List.forall_mem_cons.1 inside
      have first := read_member head key gathered frame room
      have behind := ih others (gathered ++ [(key, held)]) (by rwa [List.append_assoc])
        (.map (gathered ++ [(key, held)]) "")
      rw [List.append_assoc, ← Entries.insert_of_nodup distinct] at behind
      rw [memberTokens_cons_cons, List.append_assoc, List.foldlM_append, first]
      exact behind

/-- The tokens of a value are read to the value. -/
theorem reads_tokens {depth : Nat} {value : Value} (exact : value.Exact depth) :
    Reads depth (tokens value) value := by
  induction exact with
  | null => exact fun _ _ => rfl
  | bool flag => exact fun _ _ => rfl
  | integer n bounds => exact fun _ _ => rfl
  | string text => exact fun _ _ => rfl
  | @list depth items _ ih =>
      intro stack room
      have within : stack.length + 1 + depth ≤ maxDepth := by omega
      have opened : readStep ⟨stack, .value⟩ .openList = some ⟨.list [] :: stack, .firstItem⟩ :=
        if_pos (show stack.length < maxDepth by omega)
      rw [tokens, List.cons_append, List.foldlM_cons, opened]
      show List.foldlM readStep ⟨.list [] :: stack, .firstItem⟩ _ = _
      cases items with
      | nil => rfl
      | cons item rest =>
          rw [read_firstElement]
          exact read_elements ih [] within
  | @map depth entries distinct _ ih =>
      intro stack room
      have within : stack.length + 1 + depth ≤ maxDepth := by omega
      have opened : readStep ⟨stack, .value⟩ .openMap = some ⟨.map [] "" :: stack, .firstKey⟩ :=
        if_pos (show stack.length < maxDepth by omega)
      rw [tokens, List.cons_append, List.foldlM_cons, opened]
      show List.foldlM readStep ⟨.map [] "" :: stack, .firstKey⟩ _ = _
      cases entries with
      | nil => rfl
      | cons entry rest =>
          rw [read_firstMember]
          exact read_members ih [] distinct (.map [] "") within

/-- The compact text of a value is read to the value. -/
theorem read?_compact {depth : Nat} {value : Value} (exact : value.Exact depth)
    (shallow : depth ≤ maxDepth) : read? value.compact = some value := by
  obtain ⟨scan, scanned, finishes⟩ := tells_value exact []
  have found : tokens? value.compact.toList = some (tokens value) := by
    rw [tokens?, Value.compact, String.toList_ofList, scanned, Option.bind_some, finishes.whole,
      List.append_nil, Option.map_some, List.reverse_reverse]
  have read := reads_tokens exact [] (by simpa using shallow)
  rw [read?, found, Option.bind_some, read]
  rfl

end Json

end RoutePlan
