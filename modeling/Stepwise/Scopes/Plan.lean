import Stepwise.Declaration.Options

/-!
# The plan of a step

A plan (`StepExecutionPlan`) says in which scope a step runs: in the workflow itself, or in a step
bundle, which brings declarations of its own. A step whose bundle has no id is a step of the
workflow.
-/

namespace Stepwise

/-- The scope in which a step runs. -/
structure Plan where
  uuid : String := ""
  bundle : String := ""
  bundleDeclarations : List Declaration := []
  deriving Inhabited

/-- Whether the step runs in a bundle. -/
def Plan.inBundle (p : Plan) : Bool := p.bundle ≠ ""

end Stepwise
