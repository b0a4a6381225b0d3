import Stepwise.Json.Reader
import Stepwise.Results.Basic
import Stepwise.Results.Timestamp

/-!
# Stored results

The results of a run (`BuildRunResults`) are stored as a JSON document together with the times at
which the run and its steps started. A stored result is filed where the document says, whatever its
outcome is.

* `Archive.ofText?`: the stored results of a text.
* `Archive.toJson`: the document that they are stored as.
* `Archive.results`: the results without their times.
-/

namespace Stepwise

/-- A result with the time at which its step started. -/
structure DatedResult where
  result : StepResult
  started : Timestamp
  deriving DecidableEq

/-- The stored results of a run. -/
structure Archive where
  workflow : String
  started : Timestamp
  success : List DatedResult := []
  failed : List DatedResult := []
  failedSkippable : List DatedResult := []
  skipped : List DatedResult := []
  deriving DecidableEq

/-- The outcome of a document: its name, or an object that holds nothing under its name. -/
def Status.ofJson? : Json → Option Status
  | .text name => name.bind ofName?
  | .object [(some name, .null)] => ofName? name
  | _ => none

/-- The point in time of a document. -/
def Timestamp.ofJson? (document : Json) : Option Timestamp :=
  document.text?.bind ofText?

/-- A whole number as a document. -/
def Json.ofInt (n : Int) : Json :=
  .number ⟨n < 0, Nat.toDigits 10 n.natAbs, [], none⟩

/-- A text as a document. -/
def Json.ofString (s : String) : Json := .text (some s)

/-- An object as a document. -/
def Json.ofFields (fields : List (String × Json)) : Json :=
  .object (fields.map fun f => (some f.1, f.2))

namespace DatedResult

/-- The names of the fields, in order. -/
def fieldNames : List String :=
  ["idx", "title", "status", "exit_code", "error_message", "started_at"]

/-- The error message of a document. -/
def messageOfJson? : Json → Option (Option String)
  | .null => some none
  | document => document.text?.map some

/-- The result of a document. -/
def ofJson? (document : Json) : Option DatedResult := do
  let fields ← document.record? fieldNames
  let index ← (← fields.lookup "idx").int? 0 (Nat.pow 2 64 - 1)
  let title ← (← fields.lookup "title").text?
  let status ← Status.ofJson? (← fields.lookup "status")
  let exitCode ← (← fields.lookup "exit_code").int? (-(Nat.pow 2 31)) (Nat.pow 2 31 - 1)
  let errorMessage ← Json.optional? messageOfJson? none (fields.lookup "error_message")
  let started ← Timestamp.ofJson? (← fields.lookup "started_at")
  some ⟨{ index := index.toNat, title, status, exitCode, errorMessage }, started⟩

/-- The document of a result. -/
def toJson (d : DatedResult) : Json :=
  .ofFields <|
    [("idx", .ofInt d.result.index), ("title", .ofString d.result.title),
     ("status", .ofString d.result.status.name), ("exit_code", .ofInt d.result.exitCode)] ++
    (d.result.errorMessage.map fun m => ("error_message", Json.ofString m)).toList ++
    [("started_at", .ofString d.started.text)]

end DatedResult

namespace Archive

/-- The names of the fields, in order. -/
def fieldNames : List String :=
  ["workflow_id", "start_time", "success_steps", "failed_steps", "failed_skippable_steps",
   "skipped_steps"]

/-- The stored results of a document. -/
def ofJson? (document : Json) : Option Archive := do
  let fields ← document.record? fieldNames
  let list (name : String) : Option (List DatedResult) :=
    Json.optional? (Json.list? DatedResult.ofJson?) [] (fields.lookup name)
  some {
    workflow := ← (← fields.lookup "workflow_id").text?
    started := ← Timestamp.ofJson? (← fields.lookup "start_time")
    success := ← list "success_steps"
    failed := ← list "failed_steps"
    failedSkippable := ← list "failed_skippable_steps"
    skipped := ← list "skipped_steps" }

/-- The stored results of a text. -/
def ofText? (text : String) : Option Archive :=
  (Json.ofText? text).bind ofJson?

/-- The document that results are stored as. -/
def toJson (a : Archive) : Json :=
  let list (results : List DatedResult) : Json := .array (results.map (·.toJson))
  .ofFields
    [("workflow_id", .ofString a.workflow), ("start_time", .ofString a.started.text),
     ("success_steps", list a.success), ("failed_steps", list a.failed),
     ("failed_skippable_steps", list a.failedSkippable), ("skipped_steps", list a.skipped)]

/-- The results without their times. -/
def results (a : Archive) : Results where
  workflow := a.workflow
  success := a.success.map (·.result)
  failed := a.failed.map (·.result)
  failedSkippable := a.failedSkippable.map (·.result)
  skipped := a.skipped.map (·.result)

end Archive

end Stepwise
