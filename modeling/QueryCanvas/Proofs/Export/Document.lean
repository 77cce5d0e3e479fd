import QueryCanvas.Export.Gateway
import QueryCanvas.Export.Submission
import QueryCanvas.Proofs.Json.Blanks
import QueryCanvas.Proofs.Query.RoundTrip

/-!
# One document on all ways out

A specification leaves on the clipboard, in a file and in a submission. `exports_agree` says that
all of them carry the same document: the canonical text differs from the text under the fingerprint
by its envelope and by blanks outside of texts only, and the submission holds that text as it is.
A host with a record (`recorded`) shows which texts are handed out.
-/

namespace QueryCanvas

open Json

/-- A host that answers as another one does and keeps the texts that are handed out, in order:
those written to files and to its streams, given to programs, and sent. -/
def recorded (answers : Host Id) : Host (StateM (List String)) where
  readText path := return answers.readText path
  isPresent path := return answers.isPresent path
  createDirectories path := return answers.createDirectories path
  writeText path text := do
    modify (· ++ [text])
    return answers.writeText path text
  environment name := return answers.environment name
  runProgram program arguments input := do
    modify (· ++ [input])
    return answers.runProgram program arguments input
  send request := do
    modify (· ++ request.body.toList)
    return answers.send request
  printLine text := modify (· ++ [text])
  reportLine text := modify (· ++ [text])

/-- The texts that are handed out on the way. -/
def handedOut {α : Type} (act : StateM (List String) α) : List String :=
  (act.run []).run.2

/-- A copy gives the canonical text to the clipboard. -/
theorem handedOut_copyTo (answers : Host Id) (c : ClipboardCommand) (s : Specification) :
    handedOut (Gateway.copyTo (some (c.put (recorded answers))) s) = [s.canonicalText] := by
  cases hran : answers.runProgram c.program c.arguments s.canonicalText with
  | error e => simp [handedOut, Gateway.copyTo, ClipboardCommand.put, recorded, hran]
  | ok status =>
      cases hstatus : status.isSuccess <;>
        simp [handedOut, Gateway.copyTo, ClipboardCommand.put, recorded, hran, hstatus]

/-- A download writes the canonical text, if its directory is there. -/
theorem handedOut_download (answers : Host Id) (g : Gateway) (s : Specification) :
    handedOut (g.download (recorded answers) s) =
      if (answers.createDirectories g.directory).isOk then [s.canonicalText] else [] := by
  cases hcreated : answers.createDirectories g.directory with
  | error e => simp [handedOut, Gateway.download, recorded, hcreated, Except.isOk, Except.toBool]
  | ok created =>
      cases hwritten : answers.writeText (g.filePath s) s.canonicalText <;>
        simp [handedOut, Gateway.download, recorded, hcreated, hwritten, Except.isOk,
          Except.toBool]

/-- A submission is sent. -/
theorem handedOut_queryServiceAt (answers : Host Id) (base dataSource : String)
    (s : Specification) (queryType : String) :
    handedOut (queryServiceAt (recorded answers) base dataSource s queryType) =
      [submissionText dataSource s queryType] := by
  simp [handedOut, queryServiceAt, recorded]

namespace Specification

/-- Without its blanks, the canonical text is the compact text in an envelope. -/
theorem unspaced_canonicalText {s : Specification} (hjoins : s.joins = []) :
    unspaced s.canonicalText = "\x7b\"request\":" ++ s.compactText ++ "\x7d" := by
  have hname : quote "request" = "\"request\"".toList := by decide
  rw [canonicalText, (proper_envelope hjoins).unspaced_pretty]
  apply String.toList_inj.mp
  simp [compact, compactText, envelope, compactChars, compactMembers, compactMoreMembers, hname]

/-- A submission holds the compact text between the data source and the type. -/
theorem submissionText_eq (dataSource : String) (s : Specification) (queryType : String) :
    submissionText dataSource s queryType =
      "\x7b\"data_source_id\":" ++ String.ofList (quote dataSource) ++
        ",\"queries\":\x7b\"request\":" ++ s.compactText ++
        ",\"type\":" ++ String.ofList (quote queryType) ++
        "\x7d,\"type\":" ++ String.ofList (quote queryType) ++ "\x7d" := by
  have hsource : quote "data_source_id" = "\"data_source_id\"".toList := by decide
  have hqueries : quote "queries" = "\"queries\"".toList := by decide
  have hrequest : quote "request" = "\"request\"".toList := by decide
  have htype : quote "type" = "\"type\"".toList := by decide
  apply String.toList_inj.mp
  simp [submissionText, submission, compact, compactText, compactChars, compactMembers,
    compactMoreMembers, scalar, hsource, hqueries, hrequest, htype]

/-- All ways out carry the same document. With `c` for the text under the fingerprint: without its
blanks, the canonical text is `c` as the request of an envelope; a submission is `c` between the
data source and the type; and a clipboard, a file and the service are handed these texts and no
others. -/
theorem exports_agree {s : Specification} (hjoins : s.joins = []) (dataSource queryType : String) :
    s.fingerprint = Sha256.hex s.compactText ∧
    unspaced s.canonicalText = "\x7b\"request\":" ++ s.compactText ++ "\x7d" ∧
    submissionText dataSource s queryType =
      "\x7b\"data_source_id\":" ++ String.ofList (quote dataSource) ++
        ",\"queries\":\x7b\"request\":" ++ s.compactText ++
        ",\"type\":" ++ String.ofList (quote queryType) ++
        "\x7d,\"type\":" ++ String.ofList (quote queryType) ++ "\x7d" ∧
    ∀ answers,
      (∀ c, handedOut (Gateway.copyTo (some (ClipboardCommand.put (recorded answers) c)) s) =
        [s.canonicalText]) ∧
      (∀ g, handedOut (Gateway.download (recorded answers) g s) =
        if (answers.createDirectories g.directory).isOk then [s.canonicalText] else []) ∧
      ∀ base, handedOut (queryServiceAt (recorded answers) base dataSource s queryType) =
        [submissionText dataSource s queryType] := by
  refine ⟨rfl, unspaced_canonicalText hjoins, submissionText_eq dataSource s queryType, ?_⟩
  intro answers
  exact ⟨fun c => handedOut_copyTo answers c s, fun g => handedOut_download answers g s,
    fun base => handedOut_queryServiceAt answers base dataSource s queryType⟩

/-- Blanks and braces inside of texts stay. -/
theorem exports_agree_escaped :
    (escaped none).joins = [] ∧
      unspaced (escaped none).canonicalText =
        "\x7b\"request\":" ++ (escaped none).compactText ++ "\x7d" ∧
      submissionText "d \x7d" (escaped none) "\"" =
        "\x7b\"data_source_id\":" ++ "\"d \x7d\"" ++
          ",\"queries\":\x7b\"request\":" ++ (escaped none).compactText ++
          ",\"type\":" ++ "\"\\\"\"" ++ "\x7d,\"type\":" ++ "\"\\\"\"" ++ "\x7d" := by
  have hagree := exports_agree (s := escaped none) rfl "d \x7d" "\""
  exact ⟨rfl, hagree.2.1, hagree.2.2.1⟩

end Specification

end QueryCanvas
