import Mathlib.Data.List.Count
import RoutePlan.Settings.Load

/-!
# What is wrong with settings

The rules of settings stand in a fixed order.  A report lists each rule that is broken, an
invalid code as often as it is allowed, every other rule once.  There is only one such list,
and it is what settings are checked with; it is empty exactly when the settings are valid.
-/

namespace RoutePlan

section Ranks

variable {α : Type} {rank : α → Nat} {item other : α} {rest first second : List α}

theorem rank_le_of_mem_cons
    (ordered : (item :: rest).Pairwise fun earlier later => rank earlier ≤ rank later)
    (member : other ∈ item :: rest) : rank item ≤ rank other := by
  rcases List.mem_cons.1 member with rfl | later
  · exact Nat.le_refl _
  · exact List.rel_of_pairwise_cons ordered later

theorem mem_iff_of_filter_rank
    (same : ∀ place, first.filter (rank · == place) = second.filter (rank · == place))
    (item : α) : item ∈ first ↔ item ∈ second := by
  have here := congrArg (item ∈ ·) (same (rank item))
  simpa using here

/-- Lists that are ordered by rank and have the same members of each rank, in the same order,
are equal. -/
theorem eq_of_pairwise_of_filter_rank
    (firstOrdered : first.Pairwise fun earlier later => rank earlier ≤ rank later)
    (secondOrdered : second.Pairwise fun earlier later => rank earlier ≤ rank later)
    (same : ∀ place, first.filter (rank · == place) = second.filter (rank · == place)) :
    first = second := by
  have mem_iff := mem_iff_of_filter_rank same
  induction first generalizing second with
  | nil =>
      cases second with
      | nil => rfl
      | cons other others => simpa using (mem_iff other).2 List.mem_cons_self
  | cons item rest ih =>
      cases second with
      | nil => simpa using (mem_iff item).1 List.mem_cons_self
      | cons other others =>
          have rank_eq : rank item = rank other := Nat.le_antisymm
            (rank_le_of_mem_cons firstOrdered ((mem_iff other).2 List.mem_cons_self))
            (rank_le_of_mem_cons secondOrdered ((mem_iff item).1 List.mem_cons_self))
          have heads := same (rank item)
          rw [List.filter_cons_of_pos (by simp), List.filter_cons_of_pos (by simp [rank_eq])]
            at heads
          obtain ⟨rfl, _⟩ := List.cons.inj heads
          have tails (place : Nat) :
              rest.filter (rank · == place) = others.filter (rank · == place) := by
            have whole := same place
            by_cases here : rank item = place
            · rw [List.filter_cons_of_pos (by simp [here]),
                List.filter_cons_of_pos (by simp [here])] at whole
              exact (List.cons.inj whole).2
            · rwa [List.filter_cons_of_neg (by simp [here]),
                List.filter_cons_of_neg (by simp [here])] at whole
          rw [ih firstOrdered.of_cons secondOrdered.of_cons tails (mem_iff_of_filter_rank tails)]

end Ranks

namespace Settings

namespace Violation

/-- The place of a rule among the rules. -/
def rank : Violation → Nat
  | noStatuses => 0
  | notStatus _ => 1
  | defaultNotAllowed _ => 2
  | notAddress _ => 3
  | noTimeout => 4
  | noBody => 5
  | noLogLevel => 6

/-- The code that is no status. -/
def code? : Violation → Option Nat
  | notStatus code => some code
  | _ => none

end Violation

/-- A code of three digits. -/
def IsStatusCode (code : Nat) : Prop :=
  100 ≤ code ∧ code ≤ 999

instance (code : Nat) : Decidable (IsStatusCode code) :=
  inferInstanceAs (Decidable (100 ≤ code ∧ code ≤ 999))

/-- The settings break a rule. -/
inductive Breaks (settings : Settings) : Violation → Prop where
  | noStatuses (none : settings.routes.allowedStatuses = []) : Breaks settings .noStatuses
  | notStatus {code : Nat} (allowed : code ∈ settings.routes.allowedStatuses)
      (invalid : ¬IsStatusCode code) : Breaks settings (.notStatus code)
  | defaultNotAllowed
      (apart : settings.routes.defaultStatus ∉ settings.routes.allowedStatuses) :
      Breaks settings (.defaultNotAllowed settings.routes.defaultStatus)
  | notAddress (refused : Address.isSocket settings.server.address = false) :
      Breaks settings (.notAddress settings.server.address)
  | noTimeout (zero : settings.server.timeoutSeconds = 0) : Breaks settings .noTimeout
  | noBody (zero : settings.server.bodyLimit = 0) : Breaks settings .noBody
  | noLogLevel (blank : Text.trim settings.logLevel = "") : Breaks settings .noLogLevel

/-- How often a rule is listed when it is broken. -/
def occurrences (settings : Settings) : Violation → Nat
  | .notStatus code => settings.routes.allowedStatuses.count code
  | _ => 1

/-- The list holds exactly the broken rules, each as often as it should, in the order of the
rules, and the codes that are no statuses in the order in which they are allowed. -/
structure Reports (settings : Settings) (found : List Violation) : Prop where
  sound : ∀ violation ∈ found, settings.Breaks violation
  complete : ∀ violation, settings.Breaks violation →
    found.count violation = settings.occurrences violation
  ordered : found.Pairwise fun earlier later => earlier.rank ≤ later.rank
  codes : found.filterMap Violation.code? =
    settings.routes.allowedStatuses.filter fun code => !decide (IsStatusCode code)

/-- Settings that break no rule. -/
structure Valid (settings : Settings) : Prop where
  filled : settings.routes.allowedStatuses ≠ []
  statuses : ∀ code ∈ settings.routes.allowedStatuses, IsStatusCode code
  default : settings.routes.defaultStatus ∈ settings.routes.allowedStatuses
  address : Address.isSocket settings.server.address = true
  timeout : settings.server.timeoutSeconds ≠ 0
  body : settings.server.bodyLimit ≠ 0
  logLevel : Text.trim settings.logLevel ≠ ""

variable {settings : Settings}

/-! ## One report -/

/-- But for codes, no two broken rules share a place. -/
theorem Breaks.eq_of_rank_eq {first second : Violation} (broken : settings.Breaks first)
    (otherBroken : settings.Breaks second) (same : first.rank = second.rank)
    (place : first.rank ≠ 1) : first = second := by
  cases broken <;> cases otherBroken <;> first | rfl | exact absurd rfl place | cases same

theorem filter_rank_one (found : List Violation) :
    found.filter (·.rank == 1) = (found.filterMap Violation.code?).map .notStatus := by
  induction found with
  | nil => rfl
  | cons violation rest ih =>
      cases violation with
      | notStatus code => exact congrArg (List.cons (.notStatus code)) ih
      | _ => exact ih

/-- A broken rule that is not about codes is the only one at its place. -/
theorem Reports.filter_rank {found : List Violation} (reports : settings.Reports found)
    {violation : Violation} (broken : settings.Breaks violation) (place : violation.rank ≠ 1) :
    found.filter (·.rank == violation.rank) = [violation] := by
  have only : ∀ other ∈ found.filter (·.rank == violation.rank), other = violation := by
    intro other member
    obtain ⟨among, same⟩ := List.mem_filter.1 member
    exact ((broken.eq_of_rank_eq (reports.sound other among) (beq_iff_eq.1 same).symm place)).symm
  have once : (found.filter (·.rank == violation.rank)).length = 1 := by
    rw [← List.count_eq_length.2 fun other member => (only other member).symm,
      List.count_filter (by simp), reports.complete violation broken]
    cases violation with
    | notStatus code => exact absurd rfl place
    | _ => rfl
  rw [List.eq_replicate_of_mem only, once]
  rfl

theorem Reports.unique {found others : List Violation} (reports : settings.Reports found)
    (othersReport : settings.Reports others) : found = others := by
  refine eq_of_pairwise_of_filter_rank reports.ordered othersReport.ordered fun place => ?_
  by_cases codes : place = 1
  · rw [codes, filter_rank_one, filter_rank_one, reports.codes, othersReport.codes]
  · by_cases broken : ∃ violation, settings.Breaks violation ∧ violation.rank = place
    · obtain ⟨violation, breaks, rfl⟩ := broken
      rw [reports.filter_rank breaks codes, othersReport.filter_rank breaks codes]
    · have nothing {list : List Violation} (listReports : settings.Reports list) :
          list.filter (·.rank == place) = [] := by
        refine List.filter_eq_nil_iff.2 fun violation member same => ?_
        exact broken ⟨violation, listReports.sound violation member, beq_iff_eq.1 same⟩
      rw [nothing reports, nothing othersReport]

/-! ## The violations -/

theorem mem_violationIf {condition : Bool} {violation other : Violation} :
    other ∈ violationIf condition violation ↔ condition = true ∧ other = violation := by
  cases condition <;> simp [violationIf]

theorem count_violationIf {condition : Bool} {violation other : Violation} :
    (violationIf condition violation).count other =
      if condition = true ∧ violation = other then 1 else 0 := by
  cases condition <;> simp [violationIf, List.count_singleton]

theorem filterMap_violationIf {condition : Bool} {violation : Violation}
    (other : violation.code? = none) :
    (violationIf condition violation).filterMap Violation.code? = [] := by
  cases condition <;> simp [violationIf, other]

theorem count_map_notStatus (codes : List Nat) (violation : Violation) :
    (codes.map Violation.notStatus).count violation =
      (violation.code?.map codes.count).getD 0 := by
  cases violation with
  | notStatus code =>
      exact List.count_map_of_injective codes _ (fun _ _ => Violation.notStatus.inj) code
  | _ => exact List.count_eq_zero.2 (by simp)

theorem isNone_ofCode? (code : Nat) :
    (Status.ofCode? code).isNone = !decide (IsStatusCode code) := by
  unfold Status.ofCode? IsStatusCode
  split <;> simp [*]

theorem mem_violations_iff {violation : Violation} :
    violation ∈ settings.violations ↔ settings.Breaks violation := by
  constructor
  · intro member
    simp only [violations, List.mem_append, mem_violationIf, List.mem_map, List.mem_filter,
      isNone_ofCode?] at member
    rcases member with (((((⟨empty, rfl⟩ | ⟨code, ⟨allowed, invalid⟩, rfl⟩) | ⟨apart, rfl⟩) |
      ⟨refused, rfl⟩) | ⟨zero, rfl⟩) | ⟨zero, rfl⟩) | ⟨blank, rfl⟩
    · exact .noStatuses (List.isEmpty_iff.1 empty)
    · exact .notStatus allowed (by simpa using invalid)
    · exact .defaultNotAllowed (by simpa [RouteSettings.allows] using apart)
    · exact .notAddress (by simpa using refused)
    · exact .noTimeout (by simpa using zero)
    · exact .noBody (by simpa using zero)
    · exact .noLogLevel ((Text.isBlankText_iff _).1 blank)
  · intro broken
    simp only [violations, List.mem_append, mem_violationIf, List.mem_map, List.mem_filter,
      isNone_ofCode?]
    cases broken with
    | noStatuses none => simp [none]
    | notStatus allowed invalid => simp [allowed, invalid]
    | defaultNotAllowed apart => simp [RouteSettings.allows, apart]
    | notAddress refused => simp [refused]
    | noTimeout zero => simp [zero]
    | noBody zero => simp [zero]
    | noLogLevel blank => simp [(Text.isBlankText_iff _).2 blank]

theorem rank_of_mem_violationIf {condition : Bool} {violation : Violation} :
    ∀ other ∈ violationIf condition violation, other.rank = violation.rank := by
  intro other member
  rw [(mem_violationIf.1 member).2]

/-- The violations of the rule at the next place go to the end of those before. -/
theorem ordered_append {front back : List Violation} {place : Nat}
    (ordered : front.Pairwise (fun earlier later => earlier.rank ≤ later.rank) ∧
      ∀ violation ∈ front, violation.rank < place)
    (next : ∀ violation ∈ back, violation.rank = place) :
    (front ++ back).Pairwise (fun earlier later => earlier.rank ≤ later.rank) ∧
      ∀ violation ∈ front ++ back, violation.rank < place + 1 := by
  obtain ⟨frontOrdered, before⟩ := ordered
  constructor
  · refine List.pairwise_append.2 ⟨frontOrdered, ?_, fun earlier first later last => ?_⟩
    · exact List.pairwise_of_forall_mem_list fun earlier first later last =>
        Nat.le_of_eq ((next earlier first).trans (next later last).symm)
    · rw [next later last]
      exact Nat.le_of_lt (before earlier first)
  · refine List.forall_mem_append.2 ⟨fun violation member => ?_, fun violation member => ?_⟩
    · exact Nat.lt_succ_of_lt (before violation member)
    · rw [next violation member]
      exact Nat.lt_succ_self place

theorem pairwise_rank_violations (settings : Settings) :
    settings.violations.Pairwise fun earlier later => earlier.rank ≤ later.rank := by
  have codes : ∀ violation ∈ (settings.routes.allowedStatuses.filter
      fun code => (Status.ofCode? code).isNone).map Violation.notStatus, violation.rank = 1 := by
    rintro violation member
    obtain ⟨code, _, rfl⟩ := List.mem_map.1 member
    rfl
  have start : (violationIf settings.routes.allowedStatuses.isEmpty .noStatuses).Pairwise
      (fun earlier later => earlier.rank ≤ later.rank) ∧
        ∀ violation ∈ violationIf settings.routes.allowedStatuses.isEmpty .noStatuses,
          violation.rank < 1 :=
    @ordered_append [] _ 0 ⟨.nil, nofun⟩ rank_of_mem_violationIf
  exact (ordered_append (ordered_append (ordered_append (ordered_append (ordered_append
    (ordered_append start codes) rank_of_mem_violationIf) rank_of_mem_violationIf)
    rank_of_mem_violationIf) rank_of_mem_violationIf) rank_of_mem_violationIf).1

/-- The violations of settings are the report on them. -/
theorem reports_violations (settings : Settings) : settings.Reports settings.violations := by
  refine ⟨fun violation member => mem_violations_iff.1 member, fun violation broken => ?_, ?_, ?_⟩
  · simp only [violations, List.count_append, count_violationIf, count_map_notStatus,
      isNone_ofCode?]
    cases broken with
    | noStatuses none => simp [none, occurrences, Violation.code?]
    | notStatus allowed invalid => simp [occurrences, Violation.code?, List.count_filter, invalid]
    | defaultNotAllowed apart => simp [RouteSettings.allows, apart, occurrences, Violation.code?]
    | notAddress refused => simp [refused, occurrences, Violation.code?]
    | noTimeout zero => simp [zero, occurrences, Violation.code?]
    | noBody zero => simp [zero, occurrences, Violation.code?]
    | noLogLevel blank =>
        simp [(Text.isBlankText_iff _).2 blank, occurrences, Violation.code?]
  · exact pairwise_rank_violations settings
  · simp only [violations, List.filterMap_append, List.filterMap_map, isNone_ofCode?]
    rw [filterMap_violationIf rfl, filterMap_violationIf rfl, filterMap_violationIf rfl,
      filterMap_violationIf rfl, filterMap_violationIf rfl, filterMap_violationIf rfl]
    simp only [List.nil_append, List.append_nil]
    exact List.filterMap_some

/-- Two codes that are no statuses, one of them allowed twice, and a default that is not
allowed. -/
example : ({ routes := { allowedStatuses := [99, 1000, 99] } } : Settings).violations =
    [.notStatus 99, .notStatus 1000, .notStatus 99, .defaultNotAllowed 200] := by
  decide +kernel

theorem violations_eq_nil_iff : settings.violations = [] ↔ settings.Valid := by
  rw [List.eq_nil_iff_forall_not_mem]
  simp only [mem_violations_iff]
  constructor
  · intro none
    exact {
      filled := fun empty => none _ (.noStatuses empty)
      statuses := fun code allowed => by_contra fun invalid => none _ (.notStatus allowed invalid)
      default := by_contra fun apart => none _ (.defaultNotAllowed apart)
      address := by_contra fun refused => none _ (.notAddress (eq_false_of_ne_true refused))
      timeout := fun zero => none _ (.noTimeout zero)
      body := fun zero => none _ (.noBody zero)
      logLevel := fun blank => none _ (.noLogLevel blank) }
  · intro valid violation broken
    cases broken with
    | noStatuses empty => exact valid.filled empty
    | notStatus allowed invalid => exact invalid (valid.statuses _ allowed)
    | defaultNotAllowed apart => exact apart valid.default
    | notAddress refused => exact Bool.false_ne_true (refused.symm.trans valid.address)
    | noTimeout zero => exact valid.timeout zero
    | noBody zero => exact valid.body zero
    | noLogLevel blank => exact valid.logLevel blank

end Settings

end RoutePlan
