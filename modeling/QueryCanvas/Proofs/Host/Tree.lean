import QueryCanvas.Host.Tree
import QueryCanvas.Proofs.Host.Path

/-!
# Paths in a tree of files

A path is walked in a tree of files by its steps. Two paths that lead to the same place end at one
location, if they can be walked (`Path.SamePlace.walk_eq`).
-/

namespace QueryCanvas.Path

open Alphabet OsText

variable {text other : String} {ps : List (List Char)}

/-- Where steps lead from a location. -/
def follow (place : Location) (steps : List (List Char)) : Location :=
  steps.foldl
    (fun place step => if step = up then place.dropLast else place ++ [String.ofList step])
    place

/-- A walk that succeeds takes the steps of its pieces. -/
theorem follow_of_walk {t : FileTree} {place final : Location}
    (h : t.walk place (ps.map String.ofList) = .ok final) :
    final = follow place (ps.filter fun piece => !isIdle piece) := by
  induction ps generalizing place with
  | nil => exact (Except.ok.inj h).symm
  | cons piece ps ih =>
      have hidle : (String.ofList piece = "" ∨ String.ofList piece = ".") ↔ isIdle piece := by
        rw [← isIdle_toList, String.toList_ofList]
      have hup : String.ofList piece = ".." ↔ piece = up := by
        rw [← String.toList_inj]
        simp [up, point]
      rw [List.map_cons, FileTree.walk] at h
      split at h
      · cases h
      · cases h
      · by_cases hmeaning : isIdle piece
        · rw [if_pos (hidle.mpr hmeaning)] at h
          rw [ih h, List.filter_cons_of_neg (by simpa using hmeaning)]
        · rw [if_neg (mt hidle.mp hmeaning)] at h
          rw [List.filter_cons_of_pos (by simpa using hmeaning), follow, List.foldl_cons]
          by_cases hparent : piece = up
          · rw [if_pos (hup.mpr hparent)] at h
            rw [if_pos hparent]
            exact ih h
          · rw [if_neg (mt hup.mp hparent)] at h
            rw [if_neg hparent]
            split at h
            · cases h
            · split at h
              · exact ih h
              · cases h

/-- Paths to the same place that can be walked end at one location. -/
theorem SamePlace.walk_eq (h : SamePlace (ofString text).bytes (ofString other).bytes)
    {t : FileTree} {working place otherPlace : Location}
    (hpath : t.walk (FileTree.start working text) (FileTree.names text) = .ok place)
    (hother : t.walk (FileTree.start working other) (FileTree.names other) = .ok otherPlace) :
    place = otherPlace := by
  obtain ⟨hroot, hsteps⟩ := h
  rw [startsAtRoot_ofString, startsAtRoot_ofString] at hroot
  rw [steps_ofString, steps_ofString] at hsteps
  have hsame : steps text.toList = steps other.toList :=
    List.map_injective_iff.mpr (fun _ _ => encoded_inj.mp) hsteps
  have hstart : FileTree.start working text = FileTree.start working other := by
    rw [FileTree.start, FileTree.start, hroot]
  calc
    place = follow (FileTree.start working text) (steps text.toList) := follow_of_walk hpath
    _ = follow (FileTree.start working other) (steps other.toList) := by rw [hstart, hsame]
    _ = otherPlace := (follow_of_walk hother).symm

end QueryCanvas.Path
