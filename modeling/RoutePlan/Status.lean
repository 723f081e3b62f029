/-!
# Response statuses

A status is a code between 100 and 999.
-/

namespace RoutePlan

/-- A response status. -/
structure Status where
  code : Nat
  valid : 100 ≤ code ∧ code ≤ 999 := by decide
deriving DecidableEq

namespace Status

def ok : Status := ⟨200, by decide⟩
def badRequest : Status := ⟨400, by decide⟩
def notFound : Status := ⟨404, by decide⟩
def internalError : Status := ⟨500, by decide⟩

instance : Inhabited Status := ⟨ok⟩

/-- The status with a code, if the code is one. -/
def ofCode? (code : Nat) : Option Status :=
  if valid : 100 ≤ code ∧ code ≤ 999 then some ⟨code, valid⟩ else none

@[simp]
theorem ofCode?_code (status : Status) : ofCode? status.code = some status := by
  simp [ofCode?, status.valid]

/-- Success statuses are the two hundreds. -/
def isSuccess (status : Status) : Bool :=
  decide (200 ≤ status.code ∧ status.code < 300)

end Status

end RoutePlan
