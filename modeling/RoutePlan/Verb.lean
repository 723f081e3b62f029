import RoutePlan.Text.Blank
import RoutePlan.Text.Segments

/-!
# Verbs

The verbs that a route may declare.  `all` accepts every request method, any
other verb the method of the same spelling.
-/

namespace RoutePlan

/-- A verb that a method of a route may declare. -/
inductive Verb where
  | all | get | post | put | patch | delete | head | options
deriving DecidableEq, Inhabited

namespace Verb

/-- Every verb. -/
def supported : List Verb :=
  [all, get, post, put, patch, delete, head, options]

/-- The upper-case name. -/
def name : Verb → String
  | all => "ALL"
  | get => "GET"
  | post => "POST"
  | put => "PUT"
  | patch => "PATCH"
  | delete => "DELETE"
  | head => "HEAD"
  | options => "OPTIONS"

/-- Read a verb; case and white space around it do not count. -/
def parse? (name : String) : Option Verb :=
  supported.find? fun verb => Text.equalIgnoringCase verb.name (Text.trim name)

/-- Whether the verb accepts a request method.  Case counts. -/
def accepts (verb : Verb) (method : String) : Bool :=
  match verb with
  | all => true
  | verb => verb.name == method

theorem mem_supported (verb : Verb) : verb ∈ supported := by
  cases verb <;> decide

end Verb

end RoutePlan
