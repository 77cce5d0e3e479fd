import QueryCanvas.Export.Error
import QueryCanvas.Query.Document
import QueryCanvas.Settings.Url
import QueryCanvas.Text.Blank

/-!
# Submitting a query

A specification is submitted to the query service by one request. A success status accepts it; any
other status rejects it with the text of the answer, or with a generic text if that is blank.
-/

namespace QueryCanvas

variable {m : Type → Type}

/-- The document of a submission. -/
def submission (dataSource : String) (spec : Specification) (queryType : String) : Json :=
  .object
    [("data_source_id", .string dataSource),
     ("queries", .object [("request", spec.toJson), ("type", .string queryType)]),
     ("type", .string queryType)]

/-- The text of a submission. -/
def submissionText (dataSource : String) (spec : Specification) (queryType : String) : String :=
  (submission dataSource spec queryType).compact

/-- The statuses that say that a request succeeded. -/
def isSuccessStatus (status : Nat) : Bool :=
  200 ≤ status && status < 300

/-- The address for submissions below the base address of a service. -/
def queryEndpoint (base : String) : String :=
  joinUrl base "query/create-query"

/-- What an answer to a submission says. -/
def submissionOutcome : Except String Response → Except SubmitError Unit
  | .error reason => .error (.requestFailed reason)
  | .ok response =>
      if isSuccessStatus response.status then .ok ()
      else
        .error (.rejected response.status
          (if Text.isBlank response.body then SubmitError.genericFailure else response.body))

/-- A query service takes a submission: the data source, the specification and the type. -/
abbrev QueryService (m : Type → Type) :=
  String → Specification → String → m (Except SubmitError Unit)

/-- The query service at a base address. -/
def queryServiceAt [Monad m] (host : Host m) (base : String) : QueryService m :=
  fun dataSource spec queryType => do
    let answer ←
      host.send ⟨queryEndpoint base, some (submissionText dataSource spec queryType)⟩
    return submissionOutcome answer

end QueryCanvas
