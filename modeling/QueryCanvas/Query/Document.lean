import QueryCanvas.Digest.Sha256
import QueryCanvas.Json.Writer
import QueryCanvas.Query.Specification

/-!
# Written specifications

The compact text of a specification is what its fingerprint is taken of. The canonical text is the
indented form of the specification in its envelope; it is what leaves the editor.
-/

namespace QueryCanvas.Specification

/-- The compact text of a specification. -/
def compactText (s : Specification) : String :=
  s.toJson.compact

/-- The indented text of a specification in its envelope. -/
def canonicalText (s : Specification) : String :=
  s.envelope.pretty

/-- The digest of the compact text. -/
def fingerprint (s : Specification) : String :=
  Sha256.hex s.compactText

/-- The name of a file for the specification, made of the first eight digits of its fingerprint. -/
def fileName (s : Specification) : String :=
  "query-spec-" ++ String.ofList (s.fingerprint.toList.take 8) ++ ".json"

end QueryCanvas.Specification
