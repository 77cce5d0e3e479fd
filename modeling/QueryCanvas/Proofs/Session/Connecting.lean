import QueryCanvas.Proofs.Canvas.Verdicts
import QueryCanvas.Proofs.Session.Run

/-!
# Connect gestures

`Session.connect_decides` says what becomes of a connect gesture, whatever the session holds and
whatever the two texts are. Either the canvas admits both ends, and one connection is appended, or
the first fault is reported to the caller of the canvas, and neither canvas nor session changes.
-/

namespace QueryCanvas

namespace Session

/-- A connection is drawn exactly if the canvas admits both ends; then it is appended with the nodes
of their handles and the two texts. It is refused for the first check that fails, first of the
source and then of the target; then the canvas stays as it is, and so does the session, with its
notifications. -/
theorem connect_decides (s : Session) (source target : String) :
    let c := s.canvas
    (∀ next, c.connect source target = .ok next ↔
        ∃ first second, c.Admits source first ∧ c.Admits target second ∧
          next = { c with
            connections := c.connections ++ [⟨first.node, source, second.node, target⟩] }) ∧
      (∀ e, c.connect source target = .error e ↔
        c.Faults source e ∨ (∃ first, c.Admits source first) ∧ c.Faults target e) ∧
      (∀ next, c.connect source target = .ok next →
        c.perform (.connect source target) = (.drawn c.connections.length, next) ∧
          s.connect source target = (some c.connections.length, { s with canvas := next })) ∧
      ∀ e, c.connect source target = .error e →
        c.perform (.connect source target) = (.refused e, c) ∧
          s.connect source target = (none, s) := by
  intro c
  refine ⟨?_, ?_, ?_, ?_⟩
  · intro next
    rw [Canvas.connect_eq_ok_iff]
    simp only [Canvas.resolve_eq_ok_iff_admits]
  · intro e
    rw [Canvas.connect_eq_error_iff]
    simp only [Canvas.resolve_eq_ok_iff_admits, Canvas.resolve_eq_error_iff, exists_and_right]
  · intro next hdraw
    refine ⟨?_, connect_of_ok hdraw⟩
    rw [Canvas.perform, hdraw]
    rfl
  · intro e hrefuse
    refine ⟨?_, connect_of_error hrefuse⟩
    rw [Canvas.perform, hrefuse]
    rfl

/-- A session with one table on its canvas. -/
def parts : Session :=
  ((Session.start {}).run
    [.addTable ⟨"parts", [⟨"id", "id", .number, true, false⟩, ⟨"of", "of", .number, false, true⟩]⟩,
     .copy (.error (.clipboardUnavailable "none"))]).2

/-- Two fields of the table are connected. A node that is not there is reported although the other
end is padded, and a numeral that is too long for a node makes no handle. -/
theorem connect_decides_parts :
    let c := parts.canvas
    let drawn : Canvas :=
      { c with connections := c.connections ++ [⟨0, "0-of-source", 0, "0-id-target"⟩] }
    (c.Admits "0-of-source" ⟨0, "of", .source⟩ ∧ c.Admits "0-id-target" ⟨0, "id", .target⟩ ∧
        parts.connect "0-of-source" "0-id-target" = (some 0, { parts with canvas := drawn })) ∧
      (c.Faults "7-of-source" (.unknownNode 7) ∧
        c.perform (.connect "7-of-source" "00-id-target") = (.refused (.unknownNode 7), c) ∧
        parts.connect "7-of-source" "00-id-target" = (none, parts)) ∧
      (c.Faults "18446744073709551616-id-target"
          (.malformedHandle "18446744073709551616-id-target") ∧
        parts.connect "0-of-source" "18446744073709551616-id-target" = (none, parts)) := by
  intro c drawn
  have hof : c.Admits "0-of-source" ⟨0, "of", .source⟩ :=
    Canvas.resolve_eq_ok_iff_admits.mp (by decide +kernel)
  have hid : c.Admits "0-id-target" ⟨0, "id", .target⟩ :=
    Canvas.resolve_eq_ok_iff_admits.mp (by decide +kernel)
  have hnode : c.Faults "7-of-source" (.unknownNode 7) :=
    Canvas.resolve_eq_error_iff.mp (by decide +kernel)
  have hlong : c.Faults "18446744073709551616-id-target"
      (.malformedHandle "18446744073709551616-id-target") :=
    Canvas.resolve_eq_error_iff.mp (by decide +kernel)
  refine ⟨⟨hof, hid, ?_⟩, ⟨hnode, ?_⟩, hlong, ?_⟩
  · obtain ⟨haccepts, -, hdraws, -⟩ := connect_decides parts "0-of-source" "0-id-target"
    exact (hdraws drawn ((haccepts drawn).mpr ⟨_, _, hof, hid, rfl⟩)).2
  · obtain ⟨-, hrefuses, -, hkeeps⟩ := connect_decides parts "7-of-source" "00-id-target"
    exact hkeeps _ ((hrefuses _).mpr (.inl hnode))
  · obtain ⟨-, hrefuses, -, hkeeps⟩ :=
      connect_decides parts "0-of-source" "18446744073709551616-id-target"
    exact (hkeeps _ ((hrefuses _).mpr (.inr ⟨⟨_, hof⟩, hlong⟩))).2

end Session

end QueryCanvas
