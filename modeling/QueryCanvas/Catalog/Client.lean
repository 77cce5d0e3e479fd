import QueryCanvas.Catalog.Structure
import QueryCanvas.Export.Submission
import QueryCanvas.Text.FormUrl

/-!
# Fetching a catalog

The tables of a data source are fetched from the data service by one request. A success status must
come with a catalog document; any other status is a failure with the text of the answer, or with the
standard phrase of the status if the answer is empty.
-/

namespace QueryCanvas

variable {m : Type → Type}

/-- Why a catalog was not fetched. -/
inductive CatalogError where
  | requestFailed (reason : String)
  | status (code : Nat) (message : String)
  | decodeFailed (error : Json.ReadError)
deriving DecidableEq, Repr

/-- The text of a failure. -/
def CatalogError.message : CatalogError → String
  | .requestFailed reason => "catalog request failed: " ++ reason
  | .status code message => "catalog service returned " ++ toString code ++ ": " ++ message
  | .decodeFailed error => "failed to decode catalog response: " ++ error.message

/-- The standard phrases of statuses. -/
def reasonPhrases : List (Nat × String) :=
  [(100, "Continue"), (101, "Switching Protocols"), (102, "Processing"), (103, "Early Hints"),
   (200, "OK"), (201, "Created"), (202, "Accepted"), (203, "Non Authoritative Information"),
   (204, "No Content"), (205, "Reset Content"), (206, "Partial Content"), (207, "Multi-Status"),
   (208, "Already Reported"), (226, "IM Used"), (300, "Multiple Choices"),
   (301, "Moved Permanently"), (302, "Found"), (303, "See Other"), (304, "Not Modified"),
   (305, "Use Proxy"), (307, "Temporary Redirect"), (308, "Permanent Redirect"),
   (400, "Bad Request"), (401, "Unauthorized"), (402, "Payment Required"), (403, "Forbidden"),
   (404, "Not Found"), (405, "Method Not Allowed"), (406, "Not Acceptable"),
   (407, "Proxy Authentication Required"), (408, "Request Timeout"), (409, "Conflict"),
   (410, "Gone"), (411, "Length Required"), (412, "Precondition Failed"),
   (413, "Payload Too Large"), (414, "URI Too Long"), (415, "Unsupported Media Type"),
   (416, "Range Not Satisfiable"), (417, "Expectation Failed"), (418, "I'm a teapot"),
   (421, "Misdirected Request"), (422, "Unprocessable Entity"), (423, "Locked"),
   (424, "Failed Dependency"), (425, "Too Early"), (426, "Upgrade Required"),
   (428, "Precondition Required"), (429, "Too Many Requests"),
   (431, "Request Header Fields Too Large"), (451, "Unavailable For Legal Reasons"),
   (500, "Internal Server Error"), (501, "Not Implemented"), (502, "Bad Gateway"),
   (503, "Service Unavailable"), (504, "Gateway Timeout"), (505, "HTTP Version Not Supported"),
   (506, "Variant Also Negotiates"), (507, "Insufficient Storage"), (508, "Loop Detected"),
   (510, "Not Extended"), (511, "Network Authentication Required")]

/-- The phrase for a status without a text of its own. -/
def reasonPhrase (status : Nat) : String :=
  (reasonPhrases.lookup status).getD "request failed"

/-- The address of catalogs below the base address of a service. -/
def catalogEndpoint (base : String) : String :=
  joinUrl base "get-db-structure"

/-- The request for the tables of a data source. -/
def catalogRequest (base dataSource : String) : Request where
  url :=
    let endpoint := catalogEndpoint base
    endpoint ++ (if endpoint.toList.contains '?' then "&" else "?") ++ "data_source_id=" ++
      Text.formEncode dataSource
  body := none

/-- What an answer to a request for tables says. -/
def catalogOutcome : Except String Response → Except CatalogError (List Table)
  | .error reason => .error (.requestFailed reason)
  | .ok response =>
      if isSuccessStatus response.status then
        match Structure.decoder.read response.body with
        | .ok document => .ok document.toTables
        | .error e => .error (.decodeFailed e)
      else
        .error (.status response.status
          (if response.body = "" then reasonPhrase response.status else response.body))

/-- A catalog gives the tables of data sources. -/
abbrev Catalog (m : Type → Type) := String → m (Except CatalogError (List Table))

/-- The catalog of the data service at a base address. -/
def catalogAt [Monad m] (host : Host m) (base : String) : Catalog m := fun dataSource => do
  let answer ← host.send (catalogRequest base dataSource)
  return catalogOutcome answer

end QueryCanvas
