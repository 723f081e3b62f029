import Mathlib.Computability.Language
import RoutePlan.ParamKind

/-!
# The grammar of mail addresses

Mail addresses are described three times: as a grammar of labels between dots, as the regular
language that the pattern `(([^…]+(\.[^…]+)*)|(".+"))@(([^…]+\.)+[^…]{2,})` is, and by the test
that runs.  The three agree on every text.

Only a quoted left part holds an at sign itself.  The at sign that the pattern matches is
therefore the last one of the text, at which the test splits it.
-/

open scoped Computability

namespace RoutePlan

namespace Mail

/-! ## The grammar -/

/-- One or more characters that labels may hold. -/
def Label (label : List Char) : Prop :=
  label ≠ [] ∧ ∀ c ∈ label, isLabelChar c = true

/-- Labels with dots between them. -/
def dotted (labels : List (List Char)) : List Char :=
  ['.'].intercalate labels

/-- The left part of an address: labels, or a text on one line between quotes. -/
inductive Mailbox : List Char → Prop
  | labels {labels : List (List Char)} (nonempty : labels ≠ [])
      (each : ∀ label ∈ labels, Label label) : Mailbox (dotted labels)
  | quoted {inside : List Char} (nonempty : inside ≠ []) (line : '\n' ∉ inside) :
      Mailbox ('"' :: (inside ++ ['"']))

/-- The right part of an address: labels, and one of at least two characters after them. -/
inductive Domain : List Char → Prop
  | labels {labels : List (List Char)} {last : List Char} (nonempty : labels ≠ [])
      (each : ∀ label ∈ labels ++ [last], Label label) (long : 2 ≤ last.length) :
      Domain (dotted (labels ++ [last]))

/-- An address, split at its last at sign. -/
inductive Address : List Char → Prop
  | parts {mailbox domain : List Char} (left : Mailbox mailbox) (final : '@' ∉ domain)
      (right : Domain domain) : Address (mailbox ++ '@' :: domain)

/-! ### Labels -/

theorem dotted_cons (first : List Char) (rest : List (List Char)) :
    dotted (first :: rest) = first ++ rest.flatMap ('.' :: ·) := by
  induction rest generalizing first with
  | nil => rw [dotted, List.intercalate_singleton, List.flatMap_nil, List.append_nil]
  | cons second rest ih =>
      have next := ih second
      unfold dotted at next ⊢
      rw [List.intercalate_cons_cons, next, List.flatMap_cons, List.append_assoc]
      rfl

theorem dotted_concat (front : List (List Char)) (last : List Char) :
    dotted (front ++ [last]) = front.flatMap (· ++ ['.']) ++ last := by
  induction front with
  | nil => exact List.intercalate_singleton
  | cons first front ih =>
      obtain ⟨second, rest, split⟩ : ∃ second rest, front ++ [last] = second :: rest :=
        List.exists_cons_of_ne_nil (List.append_ne_nil_of_right_ne_nil front (by simp))
      unfold dotted at ih ⊢
      rw [List.cons_append, split, List.intercalate_cons_cons, ← split, ih, List.flatMap_cons,
        List.append_assoc (first ++ ['.'])]

theorem mem_dotted {labels : List (List Char)} {c : Char} (member : c ∈ dotted labels) :
    c = '.' ∨ ∃ label ∈ labels, c ∈ label := by
  cases labels with
  | nil => cases member
  | cons first rest =>
      rw [dotted_cons] at member
      rcases List.mem_append.1 member with inFirst | inRest
      · exact .inr ⟨first, List.mem_cons_self, inFirst⟩
      · obtain ⟨label, inLabels, within⟩ := List.mem_flatMap.1 inRest
        rcases List.mem_cons.1 within with dot | inLabel
        · exact .inl dot
        · exact .inr ⟨label, List.mem_cons_of_mem _ inLabels, inLabel⟩

/-- Labels between dots hold characters of labels and dots, and so neither an at sign nor a
quote. -/
theorem apart_of_mem_dotted {labels : List (List Char)} (each : ∀ label ∈ labels, Label label)
    {c : Char} (member : c ∈ dotted labels) : c = '.' ∨ isLabelChar c = true := by
  rcases mem_dotted member with dot | ⟨label, inLabels, inLabel⟩
  · exact .inl dot
  · exact .inr ((each label inLabels).2 c inLabel)

theorem Domain.isLabelChar_of_mem {domain : List Char} (right : Domain domain) {c : Char}
    (member : c ∈ domain) : c = '.' ∨ isLabelChar c = true := by
  obtain ⟨_, each, _⟩ := right
  exact apart_of_mem_dotted each member

theorem Domain.final {domain : List Char} (right : Domain domain) : '@' ∉ domain := fun member =>
  (right.isLabelChar_of_mem member).elim (by decide) (by decide)

/-! ## The pattern -/

/-- One character of a class. -/
def oneOf (holds : Char → Bool) : Language Char :=
  {text | ∃ c, holds c = true ∧ text = [c]}

/-- One or more texts of a language. -/
def plus (language : Language Char) : Language Char :=
  language * language∗

/-- The pattern `[^<>()\[\].,;:\s@"]+`. -/
def labelPattern : Language Char :=
  plus (oneOf isLabelChar)

/-- The pattern `([^…]+(\.[^…]+)*)|(".+")`; a point does not match the end of a line. -/
def mailboxPattern : Language Char :=
  labelPattern * ({['.']} * labelPattern)∗ + {['"']} * plus (oneOf (· != '\n')) * {['"']}

/-- The pattern `([^…]+\.)+[^…]{2,}`. -/
def domainPattern : Language Char :=
  plus (labelPattern * {['.']}) * (oneOf isLabelChar * labelPattern)

/-- The pattern of addresses, from the start of a text to its end.  No class of it holds one
case of a letter and not the other. -/
def pattern : Language Char :=
  mailboxPattern * {['@']} * domainPattern

/-! ### Repetition -/

section Repetition

variable {α : Type*} {spell : α → List Char} {parts : Set α} {language : Language Char}
  {text : List Char}

/-- A language of which every text is spelled from a part is repeated by spelling a list of
parts. -/
theorem mem_kstar_iff (spelled : ∀ text, text ∈ language ↔ ∃ x ∈ parts, text = spell x) :
    text ∈ language∗ ↔ ∃ xs : List α, (∀ x ∈ xs, x ∈ parts) ∧ text = xs.flatMap spell := by
  rw [Language.mem_kstar]
  constructor
  · rintro ⟨texts, rfl, each⟩
    induction texts with
    | nil => exact ⟨[], nofun, rfl⟩
    | cons first rest ih =>
        obtain ⟨x, member, rfl⟩ := (spelled first).1 (each first List.mem_cons_self)
        obtain ⟨xs, members, rest_eq⟩ := ih fun y inRest => each y (List.mem_cons_of_mem _ inRest)
        exact ⟨x :: xs, List.forall_mem_cons.2 ⟨member, members⟩, by
          rw [List.flatten_cons, rest_eq, List.flatMap_cons]⟩
  · rintro ⟨xs, members, rfl⟩
    refine ⟨xs.map spell, List.flatMap_def, fun y inMap => ?_⟩
    obtain ⟨x, inList, rfl⟩ := List.mem_map.1 inMap
    exact (spelled _).2 ⟨x, members x inList, rfl⟩

theorem mem_plus_iff (spelled : ∀ text, text ∈ language ↔ ∃ x ∈ parts, text = spell x) :
    text ∈ plus language ↔
      ∃ xs : List α, xs ≠ [] ∧ (∀ x ∈ xs, x ∈ parts) ∧ text = xs.flatMap spell := by
  rw [plus, Language.mem_mul]
  constructor
  · rintro ⟨first, inFirst, rest, inRest, rfl⟩
    obtain ⟨x, member, rfl⟩ := (spelled first).1 inFirst
    obtain ⟨xs, members, rfl⟩ := (mem_kstar_iff spelled).1 inRest
    exact ⟨x :: xs, List.cons_ne_nil _ _, List.forall_mem_cons.2 ⟨member, members⟩,
      List.flatMap_cons.symm⟩
  · rintro ⟨xs, nonempty, members, rfl⟩
    obtain ⟨x, rest, rfl⟩ := List.exists_cons_of_ne_nil nonempty
    obtain ⟨member, members⟩ := List.forall_mem_cons.1 members
    exact ⟨spell x, (spelled _).2 ⟨x, member, rfl⟩, rest.flatMap spell,
      (mem_kstar_iff spelled).2 ⟨rest, members, rfl⟩, List.flatMap_cons.symm⟩

end Repetition

theorem mem_oneOf {holds : Char → Bool} (text : List Char) :
    text ∈ oneOf holds ↔ ∃ c ∈ {c | holds c = true}, text = [c] :=
  Iff.rfl

theorem mem_plus_oneOf_iff {holds : Char → Bool} {text : List Char} :
    text ∈ plus (oneOf holds) ↔ text ≠ [] ∧ ∀ c ∈ text, holds c = true := by
  rw [mem_plus_iff mem_oneOf]
  simp

theorem mem_labelPattern_iff {text : List Char} : text ∈ labelPattern ↔ Label text :=
  mem_plus_oneOf_iff

/-! ### The parts of an address -/

theorem mem_dot_label (text : List Char) :
    text ∈ ({['.']} * labelPattern : Language Char) ↔
      ∃ label ∈ {label | Label label}, text = '.' :: label := by
  rw [Language.mem_mul]
  constructor
  · rintro ⟨_, rfl, label, inLabel, rfl⟩
    exact ⟨label, mem_labelPattern_iff.1 inLabel, rfl⟩
  · rintro ⟨label, inLabel, rfl⟩
    exact ⟨['.'], rfl, label, mem_labelPattern_iff.2 inLabel, rfl⟩

theorem mem_label_dot (text : List Char) :
    text ∈ (labelPattern * {['.']} : Language Char) ↔
      ∃ label ∈ {label | Label label}, text = label ++ ['.'] := by
  rw [Language.mem_mul]
  constructor
  · rintro ⟨label, inLabel, _, rfl, rfl⟩
    exact ⟨label, mem_labelPattern_iff.1 inLabel, rfl⟩
  · rintro ⟨label, inLabel, rfl⟩
    exact ⟨label, mem_labelPattern_iff.2 inLabel, ['.'], rfl, rfl⟩

theorem mem_long_label_iff {label : List Char} :
    label ∈ oneOf isLabelChar * labelPattern ↔ Label label ∧ 2 ≤ label.length := by
  rw [Language.mem_mul]
  constructor
  · rintro ⟨_, ⟨c, holds, rfl⟩, rest, inRest, rfl⟩
    obtain ⟨nonempty, all⟩ := mem_labelPattern_iff.1 inRest
    exact ⟨⟨List.cons_ne_nil _ _, List.forall_mem_cons.2 ⟨holds, all⟩⟩,
      Nat.succ_le_succ (List.length_pos_of_ne_nil nonempty)⟩
  · rintro ⟨⟨nonempty, all⟩, long⟩
    obtain ⟨c, rest, rfl⟩ := List.exists_cons_of_ne_nil nonempty
    obtain ⟨holds, all⟩ := List.forall_mem_cons.1 all
    have nonempty : rest ≠ [] := List.ne_nil_of_length_pos (Nat.lt_of_succ_lt_succ long)
    exact ⟨[c], ⟨c, holds, rfl⟩, rest, mem_labelPattern_iff.2 ⟨nonempty, all⟩, rfl⟩

theorem mem_mailboxPattern_iff {text : List Char} : text ∈ mailboxPattern ↔ Mailbox text := by
  rw [mailboxPattern, Language.mem_add]
  constructor
  · rintro (labels | quoted)
    · obtain ⟨first, inFirst, rest, inRest, rfl⟩ := Language.mem_mul.1 labels
      obtain ⟨labels, each, rfl⟩ := (mem_kstar_iff mem_dot_label).1 inRest
      rw [← dotted_cons]
      exact .labels (List.cons_ne_nil _ _)
        (List.forall_mem_cons.2 ⟨mem_labelPattern_iff.1 inFirst, each⟩)
    · obtain ⟨_, opened, _, rfl, rfl⟩ := Language.mem_mul.1 quoted
      obtain ⟨_, rfl, inside, inInside, rfl⟩ := Language.mem_mul.1 opened
      obtain ⟨nonempty, line⟩ := mem_plus_oneOf_iff.1 inInside
      exact .quoted nonempty fun member => by simpa using line _ member
  · intro mailbox
    cases mailbox with
    | @labels labels nonempty each =>
        obtain ⟨first, rest, rfl⟩ := List.exists_cons_of_ne_nil nonempty
        obtain ⟨label, each⟩ := List.forall_mem_cons.1 each
        rw [dotted_cons]
        exact .inl (Language.append_mem_mul (mem_labelPattern_iff.2 label)
          ((mem_kstar_iff mem_dot_label).2 ⟨rest, each, rfl⟩))
    | @quoted inside nonempty line =>
        have within : inside ∈ plus (oneOf (· != '\n')) :=
          mem_plus_oneOf_iff.2 ⟨nonempty, fun c member => bne_iff_ne.2 fun same =>
            line (same ▸ member)⟩
        exact .inr ⟨'"' :: inside, ⟨['"'], rfl, inside, within, rfl⟩, ['"'], rfl, rfl⟩

theorem mem_domainPattern_iff {text : List Char} : text ∈ domainPattern ↔ Domain text := by
  rw [domainPattern, Language.mem_mul]
  constructor
  · rintro ⟨front, inFront, label, inLast, rfl⟩
    obtain ⟨labels, nonempty, each, rfl⟩ := (mem_plus_iff mem_label_dot).1 inFront
    obtain ⟨final, long⟩ := mem_long_label_iff.1 inLast
    rw [← dotted_concat]
    exact .labels nonempty (List.forall_mem_append.2 ⟨each, List.forall_mem_singleton.2 final⟩) long
  · rintro @⟨labels, label, nonempty, each, long⟩
    obtain ⟨each, final⟩ := List.forall_mem_append.1 each
    rw [dotted_concat]
    exact ⟨_, (mem_plus_iff mem_label_dot).2 ⟨labels, nonempty, each, rfl⟩, label,
      mem_long_label_iff.2 ⟨List.forall_mem_singleton.1 final, long⟩, rfl⟩

/-- The texts that the pattern matches are the addresses. -/
theorem mem_pattern_iff {text : List Char} : text ∈ pattern ↔ Address text := by
  rw [pattern, Language.mem_mul]
  constructor
  · rintro ⟨_, left, domain, right, rfl⟩
    obtain ⟨mailbox, inMailbox, _, rfl, rfl⟩ := Language.mem_mul.1 left
    have right := mem_domainPattern_iff.1 right
    rw [List.append_assoc]
    exact .parts (mem_mailboxPattern_iff.1 inMailbox) right.final right
  · rintro @⟨mailbox, domain, left, _, right⟩
    refine ⟨mailbox ++ ['@'], ?_, domain, mem_domainPattern_iff.2 right, List.append_assoc _ _ _⟩
    exact Language.append_mem_mul (mem_mailboxPattern_iff.2 left) rfl

/-! ## The test -/

theorem isLabel_iff {label : List Char} : isLabel label = true ↔ Label label := by
  rw [isLabel, Bool.and_eq_true, Bool.not_eq_true', List.isEmpty_eq_false_iff, List.all_eq_true]
  rfl

theorem splitOn_dotted {labels : List (List Char)} (nonempty : labels ≠ [])
    (each : ∀ label ∈ labels, Label label) : (dotted labels).splitOn '.' = labels :=
  List.splitOn_intercalate '.'
    (fun label member dot => absurd ((each label member).2 '.' dot) (by decide)) nonempty

theorem dotted_splitOn (text : List Char) : dotted (text.splitOn '.') = text :=
  List.intercalate_splitOn '.'

theorem isDotted_iff {text : List Char} : isDotted text = true ↔
    ∃ labels, labels ≠ [] ∧ (∀ label ∈ labels, Label label) ∧ text = dotted labels := by
  rw [isDotted, List.all_eq_true]
  constructor
  · intro all
    exact ⟨text.splitOn '.', List.splitOn_ne_nil '.' text,
      fun label member => isLabel_iff.1 (all label member), (dotted_splitOn text).symm⟩
  · rintro ⟨labels, nonempty, each, rfl⟩
    rw [splitOn_dotted nonempty each]
    exact fun label member => isLabel_iff.2 (each label member)

theorem isQuoted_iff {text : List Char} : isQuoted text = true ↔
    ∃ inside, inside ≠ [] ∧ '\n' ∉ inside ∧ text = '"' :: (inside ++ ['"']) := by
  simp only [isQuoted, Bool.and_eq_true, beq_iff_eq, decide_eq_true_eq, Bool.not_eq_true',
    List.contains_eq_mem, decide_eq_false_iff_not]
  constructor
  · rintro ⟨⟨⟨opens, closes⟩, long⟩, line⟩
    obtain ⟨front, rfl⟩ := List.getLast?_eq_some_iff.1 closes
    cases front with
    | nil => exact absurd long (by decide)
    | cons c inside =>
        cases opens
        refine ⟨inside, ?_, fun member => line (by simp [member]), rfl⟩
        rintro rfl
        exact absurd long (by decide)
  · rintro ⟨inside, nonempty, line, rfl⟩
    have := List.length_pos_of_ne_nil nonempty
    refine ⟨⟨⟨rfl, by rw [← List.cons_append, List.getLast?_concat]⟩, ?_⟩, by simpa using line⟩
    simp
    omega

theorem isMailbox_iff {text : List Char} :
    (isDotted text || isQuoted text) = true ↔ Mailbox text := by
  rw [Bool.or_eq_true, isDotted_iff, isQuoted_iff]
  constructor
  · rintro (⟨labels, nonempty, each, rfl⟩ | ⟨inside, nonempty, line, rfl⟩)
    · exact .labels nonempty each
    · exact .quoted nonempty line
  · intro mailbox
    cases mailbox with
    | labels nonempty each => exact .inl ⟨_, nonempty, each, rfl⟩
    | quoted nonempty line => exact .inr ⟨_, nonempty, line, rfl⟩

theorem isDomain_iff {text : List Char} : isDomain text = true ↔ Domain text := by
  simp only [isDomain, Bool.and_eq_true, decide_eq_true_eq, List.all_eq_true]
  constructor
  · rintro ⟨⟨all, several⟩, long⟩
    have joined := dotted_splitOn text
    rcases List.eq_nil_or_concat' (text.splitOn '.') with none | ⟨front, last, split⟩
    · exact absurd none (List.splitOn_ne_nil '.' text)
    · rw [split] at all several long joined
      rw [List.getLast?_concat, Option.getD_some] at long
      rw [← joined]
      refine .labels ?_ (fun label member => isLabel_iff.1 (all label member)) long
      rintro rfl
      exact absurd several (by simp)
  · rintro @⟨front, last, nonempty, each, long⟩
    have := List.length_pos_of_ne_nil nonempty
    rw [splitOn_dotted (by simp) each, List.getLast?_concat, Option.getD_some]
    refine ⟨⟨fun label member => isLabel_iff.2 (each label member), ?_⟩, long⟩
    rw [List.length_append, List.length_singleton]
    omega

section Split

variable {separator : Char} {text : List Char}

theorem splitLast?_eq_none_iff : splitLast? separator text = none ↔ separator ∉ text := by
  induction text with
  | nil => exact iff_of_true rfl List.not_mem_nil
  | cons c rest ih =>
      rw [splitLast?, List.mem_cons, not_or]
      cases found : splitLast? separator rest with
      | some parts =>
          rw [found] at ih
          exact iff_of_false (Option.some_ne_none _) fun apart =>
            Option.some_ne_none parts (ih.2 apart.2)
      | none =>
          dsimp only
          rw [ite_eq_right_iff]
          grind

theorem splitLast?_append {after : List Char} (absent : separator ∉ after)
    (before : List Char) :
    splitLast? separator (before ++ separator :: after) = some (before, after) := by
  induction before with
  | nil => rw [List.nil_append, splitLast?, splitLast?_eq_none_iff.2 absent, if_pos rfl]
  | cons c before ih => rw [List.cons_append, splitLast?, ih]

theorem eq_of_splitLast? {before after : List Char}
    (split : splitLast? separator text = some (before, after)) :
    text = before ++ separator :: after ∧ separator ∉ after := by
  induction text generalizing before with
  | nil => cases split
  | cons c rest ih =>
      rw [splitLast?] at split
      cases found : splitLast? separator rest with
      | some parts =>
          rw [found] at split
          cases split
          obtain ⟨rfl, absent⟩ := ih found
          exact ⟨rfl, absent⟩
      | none =>
          rw [found] at split
          obtain ⟨rfl, same⟩ := Option.ite_none_right_eq_some.1 split
          cases same
          exact ⟨rfl, splitLast?_eq_none_iff.1 found⟩

end Split

/-- The test accepts the addresses. -/
theorem isAddress_iff {text : List Char} : isAddress text = true ↔ Address text := by
  unfold isAddress
  constructor
  · intro accepted
    split at accepted
    · cases accepted
    · rename_i mailbox domain split
      obtain ⟨rfl, final⟩ := eq_of_splitLast? split
      obtain ⟨left, right⟩ := Bool.and_eq_true_iff.1 accepted
      exact .parts (isMailbox_iff.1 left) final (isDomain_iff.1 right)
  · rintro @⟨mailbox, domain, left, final, right⟩
    rw [splitLast?_append final]
    exact Bool.and_eq_true_iff.2 ⟨isMailbox_iff.2 left, isDomain_iff.2 right⟩

end Mail

end RoutePlan
