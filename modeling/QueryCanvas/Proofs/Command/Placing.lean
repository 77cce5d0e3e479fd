import QueryCanvas.Command.Run
import QueryCanvas.Proofs.Host.Path

/-!
# The file for a path

A specification that is asked for at a path is written by a gateway into the directory above. Which
file that is can be told from the steps of the path (`Command.Target`). It is where the path leads
to exactly if the last step is a name that is a text (`Command.Target.samePlace_iff`): other names
are written as they are shown, and where there is no name the file gets the one that the
specification has by itself.
-/

namespace QueryCanvas

open QueryCanvas.Path

/-! ## The name that a specification has by itself -/

/-- A hexadecimal digit is no slash. -/
theorem Text.slash_notMem_hexDigits (width n : Nat) : '/' ∉ hexDigits width n := by
  have hdigit : ∀ d < 16, Nat.digitChar d ≠ '/' := by decide
  intro hslash
  obtain ⟨i, -, hi⟩ := List.mem_map.mp hslash
  exact hdigit _ (Nat.mod_lt _ (by decide)) hi

namespace Specification

variable (spec : Specification)

theorem slash_notMem_fileName : '/' ∉ spec.fileName.toList := by
  have hdigits : '/' ∉ spec.fingerprint.toList.take 8 := by
    intro hslash
    have hmem := List.mem_of_mem_take hslash
    rw [fingerprint, Sha256.hex, String.toList_ofList, List.mem_flatMap] at hmem
    obtain ⟨word, -, hword⟩ := hmem
    exact Text.slash_notMem_hexDigits 8 _ hword
  simp [fileName, hdigits]

/-- It is longer than the signs that stand for directories. -/
theorem fileName_ne {sign : String} (h : sign.length ≤ 2) : spec.fileName ≠ sign := by
  intro hsame
  rw [← hsame, fileName, String.length_append, String.length_append] at h
  have hend : ".json".length = 5 := rfl
  omega

end Specification

namespace Command

variable {path directory file : OsText} {spec : Specification} {name : String}

/-- The name under which a specification is written for a path: that of the last step, as it is
shown, or the one it has by itself if there is no step or the last one leads up. -/
def nameFor (path : OsText) (spec : Specification) : String :=
  match (steps path.bytes).getLast? with
  | none => spec.fileName
  | some last => if last = up then spec.fileName else OsText.shown ⟨last⟩

/-- The file that is written for a path, and the directory that is created for it. -/
structure Target (path : OsText) (spec : Specification) (directory file : OsText) : Prop where
  /-- The directory takes the steps of the path but the last. -/
  directory_steps : steps directory.bytes = (steps path.bytes).dropLast
  /-- It starts at the root if the path does and takes a step. -/
  directory_root : startsAtRoot directory.bytes = true ↔
    startsAtRoot path.bytes = true ∧ steps path.bytes ≠ []
  /-- The file is one step further, by its name. -/
  file_steps : steps file.bytes =
    steps directory.bytes ++ [(OsText.ofString (nameFor path spec)).bytes]
  /-- It starts where the directory does. -/
  file_root : startsAtRoot file.bytes = startsAtRoot directory.bytes

/-- The path names a file by a text. -/
def NamesFile (path : OsText) : Prop :=
  ∃ before name, steps path.bytes = before ++ [(OsText.ofString name).bytes] ∧ name ≠ ".."

/-- What is shown of a step is the name of a step again. -/
theorem steps_shown {last : List UInt8} (h : last ∈ steps path.bytes) :
    '/' ∉ (OsText.shown ⟨last⟩).toList ∧ OsText.shown ⟨last⟩ ≠ "" ∧ OsText.shown ⟨last⟩ ≠ "." := by
  have hsign : ∀ sign : String, '\uFFFD' ∉ sign.toList →
      isIdle (OsText.ofString sign).bytes = true → OsText.shown ⟨last⟩ ≠ sign := by
    intro sign hkept hidle hsame
    have hbytes : OsText.ofString sign = ⟨last⟩ := by
      rw [← hsame] at hkept ⊢
      exact OsText.ofString_shown_of_notMem hkept
    rw [hbytes] at hidle
    have hmeaning := (List.mem_filter.mp h).2
    simp [hidle] at hmeaning
  refine ⟨OsText.slash_notMem_shown (slash_notMem_of_mem_steps h), ?_, ?_⟩
  · exact hsign "" (by simp) rfl
  · exact hsign "." (by decide) rfl

/-- The file is written under the name of a step. -/
theorem steps_nameFor (path : OsText) (spec : Specification) :
    '/' ∉ (nameFor path spec).toList ∧
      steps (OsText.ofString (nameFor path spec)).bytes =
        [(OsText.ofString (nameFor path spec)).bytes] := by
  have hname : '/' ∉ (nameFor path spec).toList ∧ nameFor path spec ≠ "" ∧
      nameFor path spec ≠ "." := by
    have hown : '/' ∉ spec.fileName.toList ∧ spec.fileName ≠ "" ∧ spec.fileName ≠ "." :=
      ⟨spec.slash_notMem_fileName, spec.fileName_ne (by decide), spec.fileName_ne (by decide)⟩
    unfold nameFor
    split
    · exact hown
    · next last hlast =>
      split_ifs
      · exact hown
      · exact steps_shown (List.mem_of_getLast? hlast)
  obtain ⟨hslash, hempty, hpoint⟩ := hname
  exact ⟨hslash, steps_of_name hslash hempty hpoint⟩

/-- The gateway to a path writes the file for it. -/
theorem target_gatewayTo (path : OsText) (spec : Specification) :
    Target path spec (gatewayTo path).directory ((gatewayTo path).filePath spec) := by
  have hdirectory : (gatewayTo path).directory.bytes =
      (above? path.bytes).getD [Alphabet.point] := by
    rw [gatewayTo, OsText.parent?]
    cases above? path.bytes <;> rfl
  have hname : (gatewayTo path).fileName.getD spec.fileName = nameFor path spec := by
    rw [gatewayTo, OsText.fileName?, name?_eq, nameFor]
    cases (steps path.bytes).getLast? with
    | none => rfl
    | some last => by_cases hup : last = up <;> simp [Option.filter_some, hup]
  have hfile : ((gatewayTo path).filePath spec).bytes =
      joined (gatewayTo path).directory.bytes (OsText.ofString (nameFor path spec)).bytes := by
    rw [Gateway.filePath, hname, OsText.join]
  obtain ⟨hslash, hstep⟩ := steps_nameFor path spec
  have hbytes := mt OsText.slash_mem_ofString.mp hslash
  refine ⟨?_, ?_, ?_, ?_⟩
  · rw [hdirectory, steps_above]
  · rw [hdirectory, startsAtRoot_above]
  · rw [hfile, steps_joined hbytes, hstep]
  · rw [hfile, startsAtRoot_joined hbytes]

/-- The file for a path is where the path leads to exactly if the path names a file by a text. -/
theorem Target.samePlace_iff (h : Target path spec directory file) :
    SamePlace file.bytes path.bytes ↔ NamesFile path := by
  unfold SamePlace
  rw [h.file_root, h.file_steps, h.directory_steps]
  constructor
  · intro hsame
    obtain ⟨-, hsteps⟩ := hsame
    refine ⟨_, nameFor path spec, hsteps.symm, ?_⟩
    intro hup
    -- A last step that leads up is not what the file is named by.
    have hlast : (steps path.bytes).getLast? = some up := by
      rw [← hsteps, List.getLast?_concat, ofString_eq_up.mpr hup]
    have hown : nameFor path spec = spec.fileName := by
      rw [nameFor, hlast]
      exact if_pos rfl
    exact spec.fileName_ne (by decide) (hown.symm.trans hup)
  · intro hnames
    obtain ⟨before, name, hsteps, hup⟩ := hnames
    have hlast : (OsText.ofString name).bytes ≠ up := mt ofString_eq_up.mp hup
    have hname : nameFor path spec = name := by
      rw [nameFor, hsteps, List.getLast?_concat]
      exact (if_neg hlast).trans (OsText.shown_ofString name)
    refine ⟨?_, ?_⟩
    · rw [Bool.eq_iff_iff, h.directory_root, hsteps]
      simp
    · rw [hsteps, hname, List.dropLast_concat]

/-- A path of a single step names no file if the step leads up or is no text. -/
theorem not_namesFile_of_steps {last : List UInt8} (h : steps path.bytes = [last])
    (hlast : last = up ∨ (OsText.mk last).text? = none) : ¬ NamesFile path := by
  intro hnames
  obtain ⟨before, name, hsteps, hup⟩ := hnames
  have hname : last = (OsText.ofString name).bytes := by
    rw [h] at hsteps
    have hends := congrArg List.getLast? hsteps
    rw [List.getLast?_singleton, List.getLast?_concat] at hends
    exact Option.some.inj hends
  subst hname
  rcases hlast with hleads | hbytes
  · exact hup (ofString_eq_up.mp hleads)
  · rw [OsText.text?_eq_some_iff.mpr rfl] at hbytes
    cases hbytes

end Command

end QueryCanvas
