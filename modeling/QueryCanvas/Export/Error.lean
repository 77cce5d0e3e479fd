import QueryCanvas.Host.Basic

/-!
# Failures of exports

Why a specification could not be written to a file, copied or submitted, and the texts that say so.
-/

namespace QueryCanvas

/-- Why a specification was not written or copied. -/
inductive ExportError where
  | writeFailed (path : OsText) (error : SystemError)
  | clipboardUnavailable (reason : String)
  | clipboardFailed (reason : String)
deriving DecidableEq, Repr

/-- The text of a failed export. -/
def ExportError.message : ExportError → String
  | .writeFailed path error => "failed to write " ++ path.shown ++ ": " ++ error.message
  | .clipboardUnavailable reason => "clipboard unavailable: " ++ reason
  | .clipboardFailed reason => "clipboard command failed: " ++ reason

/-- Why a specification was not accepted by the query service. -/
inductive SubmitError where
  | requestFailed (reason : String)
  | rejected (status : Nat) (message : String)
deriving DecidableEq, Repr

namespace SubmitError

/-- The text for a failure that the service does not explain. -/
def genericFailure : String :=
  "Failed to create query"

/-- The text of a failed submission. -/
def message : SubmitError → String
  | .requestFailed reason => "query submission failed: " ++ reason
  | .rejected status text => "query API returned " ++ toString status ++ ": " ++ text

/-- The text that the user is shown. -/
def userMessage : SubmitError → String
  | .requestFailed _ => genericFailure
  | .rejected _ text => text

end SubmitError

end QueryCanvas
