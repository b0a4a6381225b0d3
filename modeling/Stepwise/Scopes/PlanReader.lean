import Stepwise.Yaml.File
import Stepwise.Scopes.Plan

/-!
# Plans as documents
-/

namespace Stepwise.Plan

open Yaml

/-- The names of a plan's fields, in order. -/
def fieldNames : List String := ["uuid", "step_bundle_uuid", "step_bundle_envs"]

/-- A plan. -/
def reader : Reader Plan :=
  Reader.record fieldNames fun depth field => do
    return {
      uuid := ← Reader.field Reader.text "" depth (field "uuid")
      bundle := ← Reader.field Reader.text "" depth (field "step_bundle_uuid")
      bundleDeclarations :=
        ← Reader.field (Reader.list Reader.declaration) [] depth (field "step_bundle_envs") }

/-- The plan of a text. -/
def ofText (text : String) : Except Fault Plan :=
  reader.run text

end Stepwise.Plan
