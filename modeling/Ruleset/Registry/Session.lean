import Ruleset.Registry.Lifecycle

/-!
# Sessions

A session drives one registry through loads, finalizes and reopens, one step after another.
A refused step leaves the registry as it was: a malformed document, a load into a finalized
registry and a finalize whose inheritance check fails change nothing.
-/

namespace Ruleset

namespace Registry

/-- A step of a session that may change the registry. -/
inductive Op where
  | load (doc : Document)
  | finalize
  | reopen
  deriving DecidableEq, Repr, Inhabited

/-- The registry after one step; a refused step keeps the registry. -/
def exec (r : Registry) : Op → Registry
  | .load doc =>
    match r.load doc with
    | .ok (r', _) => r'
    | .error _ => r
  | .finalize =>
    match r.finalize with
    | .ok r' => r'
    | .error _ => r
  | .reopen => r.reopen

/-- The registry after a sequence of steps. -/
def run (r : Registry) (ops : List Op) : Registry := ops.foldl exec r

end Registry

end Ruleset
