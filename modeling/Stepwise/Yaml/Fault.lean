/-!
# What is wrong with a YAML document
-/

namespace Stepwise.Yaml

/-- Why a document cannot be read. -/
inductive Fault where
  /-- The text is no YAML document. -/
  | illFormed
  /-- There is no document where one is needed. -/
  | missing
  /-- There is more than one document. -/
  | severalDocuments
  /-- An alias names no anchor. -/
  | unknownAnchor
  /-- A value is of another type than the one asked for. -/
  | wrongType
  /-- A field or key is given twice. -/
  | duplicate
  /-- Values are nested or repeated too often. -/
  | tooLarge
  deriving DecidableEq

/-- A fault in words. -/
def Fault.message : Fault → String
  | .illFormed => "not a YAML document"
  | .missing => "no document"
  | .severalDocuments => "more than one document"
  | .unknownAnchor => "unknown anchor"
  | .wrongType => "a value has the wrong type"
  | .duplicate => "a key is given twice"
  | .tooLarge => "the document is nested or repeated too deeply"

end Stepwise.Yaml
