import Mathlib.Data.List.DropRight
import QueryCanvas.Host.Path
import QueryCanvas.Proofs.Host.OsText

/-!
# Where paths lead

A path leads to where its steps do: it starts at the root or not, and takes the pieces that carry a
meaning one after another (`Path.steps`). The directory above a path takes all its steps but the
last (`Path.steps_above`), which is its name unless it leads up (`Path.name?_eq`), and a name that
is joined to a directory is a step more (`Path.steps_joined`). The bytes of a text take the steps
that the text takes (`Path.steps_ofString`).
-/

namespace QueryCanvas.Path

open Alphabet

variable {α : Type} [DecidableEq α] [Alphabet α]
  {cs path other directory name piece : List α} {ps : List (List α)}

/-! ## Pieces -/

/-- The pieces of a path are its parts between slashes. -/
theorem pieces_eq_splitOn (cs : List α) : pieces cs = cs.splitOn slash := by
  induction cs with
  | nil => rfl
  | cons c cs ih =>
      have hne : pieces cs ≠ [] := by
        rw [ih]
        exact List.splitOnP_ne_nil _ cs
      obtain ⟨first, rest, hpieces⟩ := List.exists_cons_of_ne_nil hne
      unfold List.splitOn at ih ⊢
      rw [List.splitOnP_cons_eq_if_modifyHead, ← ih, pieces, hpieces]
      by_cases hslash : c = slash <;> simp [hslash]

/-- There is at least one piece. -/
theorem exists_pieces_eq_cons (cs : List α) : ∃ first rest, pieces cs = first :: rest := by
  rw [pieces_eq_splitOn]
  exact List.exists_cons_of_ne_nil (List.splitOnP_ne_nil _ cs)

/-- A unit goes before the first piece, or ends an empty one before it. -/
theorem pieces_cons (c : α) {first : List α} (h : pieces cs = first :: ps) :
    pieces (c :: cs) = if c = slash then [] :: first :: ps else (c :: first) :: ps := by
  rw [pieces, h]

/-- A path without slashes is a single piece. -/
theorem pieces_of_notMem (h : slash ∉ cs) : pieces cs = [cs] := by
  rw [pieces_eq_splitOn]
  refine List.splitOnP_eq_singleton ?_
  intro c hc
  rw [beq_eq_false_iff_ne]
  intro hsame
  exact h (hsame ▸ hc)

/-- The pieces before and after a slash do not depend on each other. -/
theorem pieces_append (before after : List α) :
    pieces (before ++ slash :: after) = pieces before ++ pieces after := by
  simp only [pieces_eq_splitOn]
  exact List.splitOnP_append_cons before after (beq_self_eq_true slash)

/-- No piece holds a slash. -/
theorem slash_notMem_of_mem_pieces (h : piece ∈ pieces cs) : slash ∉ piece := by
  induction cs generalizing piece with
  | nil =>
      rw [pieces, List.mem_singleton] at h
      rw [h]
      exact List.not_mem_nil
  | cons c cs ih =>
      obtain ⟨first, rest, hpieces⟩ := exists_pieces_eq_cons cs
      rw [hpieces] at ih
      rw [pieces_cons c hpieces] at h
      split_ifs at h with hslash
      · rcases List.mem_cons.mp h with hnone | hold
        · rw [hnone]
          exact List.not_mem_nil
        · exact ih hold
      · rcases List.mem_cons.mp h with hgrown | hold
        · rw [hgrown, List.mem_cons, not_or]
          exact ⟨fun hsame => hslash hsame.symm, ih List.mem_cons_self⟩
        · exact ih (List.mem_cons_of_mem first hold)

/-- Units before a slash go before the first piece. -/
theorem pieces_append_of_notMem {first : List α} (hname : slash ∉ name)
    (h : pieces cs = first :: ps) : pieces (name ++ cs) = (name ++ first) :: ps := by
  induction name with
  | nil => exact h
  | cons c name ih =>
      rw [List.mem_cons, not_or] at hname
      rw [List.cons_append, pieces_cons c (ih hname.2), if_neg fun hsame => hname.1 hsame.symm]
      rfl

/-- Pieces without slashes are the pieces of what they spell. -/
theorem pieces_intercalate (hps : ∀ piece ∈ ps, slash ∉ piece) (hne : ps ≠ []) :
    pieces ([slash].intercalate ps) = ps := by
  rw [pieces_eq_splitOn]
  exact List.splitOn_intercalate slash hps hne

/-- A path starts at the root if an empty piece comes before others. -/
theorem startsAtRoot_iff :
    startsAtRoot path = true ↔ ∃ second rest, pieces path = [] :: second :: rest := by
  unfold startsAtRoot
  cases path with
  | nil => simp [pieces]
  | cons c cs =>
      obtain ⟨first, rest, hpieces⟩ := exists_pieces_eq_cons cs
      rw [pieces_cons c hpieces]
      by_cases hslash : c = slash <;> simp [hslash]

/-! ## Steps -/

/-- The pieces that carry a meaning. -/
def steps (path : List α) : List (List α) :=
  (pieces path).filter fun piece => !isIdle piece

/-- Two paths lead to the same place from wherever they are walked: they start at the same place and
take the same steps. -/
def SamePlace (path other : List α) : Prop :=
  startsAtRoot path = startsAtRoot other ∧ steps path = steps other

/-- The empty path takes no step. -/
@[simp] theorem steps_nil : steps ([] : List α) = [] := rfl

/-- The working directory takes no step. -/
@[simp] theorem steps_point : steps [(point : α)] = [] := by
  have hpoint : slash ∉ [(point : α)] := by simp [slash_ne_point]
  rw [steps, pieces_of_notMem hpoint]
  simp [isIdle]

theorem slash_notMem_of_mem_steps (h : piece ∈ steps path) : slash ∉ piece :=
  slash_notMem_of_mem_pieces (List.mem_filter.mp h).1

/-- A path with a slash takes the steps before it and then those after it. -/
theorem steps_append (before after : List α) :
    steps (before ++ slash :: after) = steps before ++ steps after := by
  rw [steps, pieces_append, List.filter_append]
  rfl

/-- A name does not start at the root. -/
theorem startsAtRoot_of_notMem (h : slash ∉ name) : startsAtRoot name = false := by
  cases name with
  | nil => rfl
  | cons c cs =>
      rw [List.mem_cons, not_or] at h
      simpa [startsAtRoot] using fun hsame => h.1 hsame.symm

/-- A name that carries a meaning is a step. -/
theorem steps_of_notMem (h : slash ∉ name) (hmeaning : isIdle name = false) :
    steps name = [name] := by
  rw [steps, pieces_of_notMem h]
  simp [hmeaning]

/-- A name that is joined to a directory is taken as a step from there. -/
theorem steps_joined (hname : slash ∉ name) :
    steps (joined directory name) = steps directory ++ steps name := by
  rw [joined, startsAtRoot_of_notMem hname, if_neg Bool.false_ne_true]
  split_ifs with hend
  · rcases hend with hempty | hslash
    · rw [hempty]
      rfl
    · obtain ⟨before, hbefore⟩ := List.getLast?_eq_some_iff.mp hslash
      have hlast : steps directory = steps before := by
        rw [hbefore, steps_append, steps_nil, List.append_nil]
      rw [hlast, hbefore, List.append_assoc, List.singleton_append, steps_append]
  · exact steps_append directory name

/-- The joined path starts where the directory does. -/
theorem startsAtRoot_joined (hname : slash ∉ name) :
    startsAtRoot (joined directory name) = startsAtRoot directory := by
  rw [joined, startsAtRoot_of_notMem hname, if_neg Bool.false_ne_true]
  cases directory with
  | nil => exact startsAtRoot_of_notMem hname
  | cons c cs => split_ifs <;> rfl

/-- Pieces at the end that carry no meaning take no step. -/
theorem filter_rdropWhile_isIdle (ps : List (List α)) :
    (ps.rdropWhile isIdle).filter (fun piece => !isIdle piece) =
      ps.filter fun piece => !isIdle piece := by
  induction ps using List.reverseRecOn with
  | nil => rfl
  | append_singleton ps last ih =>
      by_cases hidle : isIdle last = true
      · rw [List.rdropWhile_concat_pos _ _ _ hidle, ih, List.filter_append]
        simp [hidle]
      · rw [List.rdropWhile_concat_neg _ _ _ hidle]

/-! ## Taking a path apart -/

/-- The spelling of pieces takes those that carry a meaning as steps. -/
theorem steps_ofPieces (hps : ∀ piece ∈ ps, slash ∉ piece) (hne : ps ≠ []) :
    steps (ofPieces ps) = ps.filter fun piece => !isIdle piece := by
  unfold ofPieces
  split_ifs with hroot
  · rw [hroot]
    simp [steps, pieces, isIdle]
  · rw [steps, pieces_intercalate hps hne]

/-- The spelling of pieces starts at the root exactly if the first piece is empty. -/
theorem startsAtRoot_ofPieces {first : List α} (hfirst : slash ∉ first) :
    startsAtRoot (ofPieces (first :: ps)) = first.isEmpty := by
  unfold ofPieces
  cases first with
  | nil => cases ps <;> simp [startsAtRoot, List.intercalate_cons_cons]
  | cons c cs =>
      rw [List.mem_cons, not_or] at hfirst
      have hother : c ≠ slash := fun hsame => hfirst.1 hsame.symm
      cases ps <;> simpa [startsAtRoot, List.intercalate_cons_cons] using hother

/-- How a path is taken apart. It has no steps, or one that is its first piece, or a last one after
others. -/
inductive Apart (path : List α) : Prop where
  | idle {first} : trimmed path = [first] → isIdle first = true → steps path = [] → Apart path
  | single {first} : trimmed path = [first] → isIdle first = false → steps path = [first] →
      startsAtRoot path = false → Apart path
  | below {first between last} : trimmed path = first :: (between ++ [last]) →
      isIdle last = false → (∀ piece ∈ first :: between, slash ∉ piece) →
      steps path = (first :: between).filter (fun piece => !isIdle piece) ++ [last] →
      startsAtRoot path = first.isEmpty → Apart path

/-- Every path is taken apart in one of these ways. -/
theorem apart (path : List α) : Apart path := by
  obtain ⟨first, after, hpieces⟩ := exists_pieces_eq_cons path
  have htrimmed : trimmed path = first :: after.rdropWhile isIdle := by
    rw [trimmed, hpieces]
    rfl
  have hsteps : steps path =
      (first :: after.rdropWhile isIdle).filter fun piece => !isIdle piece := by
    rw [steps, hpieces, List.filter_cons, List.filter_cons, filter_rdropWhile_isIdle]
  obtain hnone | ⟨between, last, hsome⟩ := (after.rdropWhile isIdle).eq_nil_or_concat'
  · rw [hnone] at htrimmed hsteps
    cases hmeaning : isIdle first with
    | true => exact .idle htrimmed hmeaning (by simp [hsteps, hmeaning])
    | false =>
        refine .single htrimmed hmeaning (by simp [hsteps, hmeaning]) ?_
        rw [← Bool.not_eq_true, startsAtRoot_iff, hpieces]
        intro hroot
        obtain ⟨second, rest, hroot⟩ := hroot
        cases hroot
        cases hmeaning
  · rw [hsome] at htrimmed hsteps
    have hne : after.rdropWhile isIdle ≠ [] := by simp [hsome]
    have hmeaning : isIdle last = false := by
      have hlast := List.rdropWhile_last_not isIdle after hne
      simpa [hsome] using hlast
    have hmem : ∀ piece ∈ first :: between, piece ∈ pieces path := by
      intro piece hpiece
      rw [hpieces]
      refine List.mem_cons.mpr ((List.mem_cons.mp hpiece).imp_right ?_)
      intro hbetween
      refine (List.rdropWhile_prefix isIdle after).subset ?_
      rw [hsome]
      exact List.mem_append_left _ hbetween
    have hafter : after ≠ [] := by
      intro hempty
      rw [hempty] at hne
      exact hne rfl
    obtain ⟨second, rest, hafter⟩ := List.exists_cons_of_ne_nil hafter
    refine .below htrimmed hmeaning ?_ ?_ ?_
    · intro piece hpiece
      exact slash_notMem_of_mem_pieces (hmem piece hpiece)
    · rw [hsteps, ← List.cons_append, List.filter_append]
      simp [hmeaning]
    · rw [Bool.eq_iff_iff, startsAtRoot_iff, hpieces, hafter, List.isEmpty_iff]
      simp

/-- The name of a path is its last step, unless that leads up. -/
theorem name?_eq (path : List α) :
    name? path = (steps path).getLast?.filter fun last => last ≠ up := by
  cases apart path with
  | idle htrimmed hidle hsteps => simp [name?, htrimmed, hsteps, hidle]
  | @single first htrimmed hmeaning hsteps hroot =>
      rw [name?, htrimmed, hsteps, List.getLast?_singleton]
      simp [hmeaning, Option.filter_some, ite_not]
  | @below first between last htrimmed hmeaning hslash hsteps hroot =>
      rw [name?, htrimmed, hsteps, ← List.cons_append, List.getLast?_concat, List.getLast?_concat]
      simp [hmeaning, Option.filter_some, ite_not]

/-- What is above the pieces before the last one is spelled by them. -/
theorem above?_of_trimmed {first last : List α} {between : List (List α)}
    (h : trimmed path = first :: (between ++ [last])) :
    above? path = some (ofPieces (first :: between.rdropWhile isIdle)) := by
  obtain ⟨nearest, others, hbefore⟩ :=
    List.exists_cons_of_ne_nil (l := (first :: between).reverse) (by simp)
  have hreversed : (trimmed path).reverse = last :: nearest :: others := by
    rw [h, ← List.cons_append, List.reverse_append, hbefore]
    rfl
  have habove : (nearest :: others).reverse = first :: between := by
    rw [← hbefore, List.reverse_reverse]
  rw [above?, hreversed]
  simp only [habove]
  rfl

/-- What is above a single piece is nothing, or the empty path. -/
theorem above?_of_single {first : List α} (h : trimmed path = [first]) :
    above? path = if first = [] then none else some [] := by
  simp [above?, h]

/-- The directory above a path takes the steps before the last one. Where there is none above, the
working directory stands for it. -/
theorem steps_above (path : List α) :
    steps ((above? path).getD [point]) = (steps path).dropLast := by
  cases apart path with
  | @idle first htrimmed hidle hsteps =>
      rw [above?_of_single htrimmed, hsteps]
      split_ifs <;> simp
  | @single first htrimmed hmeaning hsteps hroot =>
      rw [above?_of_single htrimmed, hsteps]
      split_ifs <;> simp
  | @below first between last htrimmed hmeaning hslash hsteps hroot =>
      have hkept : ∀ piece ∈ first :: between.rdropWhile isIdle, slash ∉ piece := by
        intro piece hpiece
        refine hslash piece (List.mem_cons.mpr ((List.mem_cons.mp hpiece).imp_right ?_))
        exact fun hmem => (List.rdropWhile_prefix isIdle between).subset hmem
      rw [above?_of_trimmed htrimmed, Option.getD_some, steps_ofPieces hkept (by simp), hsteps,
        List.dropLast_concat, List.filter_cons, List.filter_cons, filter_rdropWhile_isIdle]

/-- It starts at the root if the path does and there is a step to go back from. -/
theorem startsAtRoot_above (path : List α) :
    startsAtRoot ((above? path).getD [point]) = true ↔
      startsAtRoot path = true ∧ steps path ≠ [] := by
  cases apart path with
  | @idle first htrimmed hidle hsteps =>
      rw [above?_of_single htrimmed, hsteps]
      split_ifs <;> simp [startsAtRoot, slash_ne_point.symm]
  | @single first htrimmed hmeaning hsteps hroot =>
      rw [above?_of_single htrimmed, hroot]
      split_ifs <;> simp [startsAtRoot, slash_ne_point.symm]
  | @below first between last htrimmed hmeaning hslash hsteps hroot =>
      rw [above?_of_trimmed htrimmed, Option.getD_some, hroot, hsteps,
        startsAtRoot_ofPieces (hslash first List.mem_cons_self)]
      simp

/-! ## Paths of texts -/

section OfString

open OsText

variable {text : String} {cs piece : List Char}

/-- The bytes of characters. -/
def encoded (cs : List Char) : List UInt8 :=
  cs.flatMap String.utf8EncodeChar

theorem encoded_inj : encoded cs = encoded piece ↔ cs = piece := by
  have htexts : ofString (String.ofList cs) = ofString (String.ofList piece) ↔
      String.ofList cs = String.ofList piece := ofString_inj
  rwa [ofString, ofString, String.toList_ofList, String.toList_ofList, OsText.mk.injEq,
    String.ofList_inj] at htexts

@[simp] theorem encoded_eq_nil : encoded cs = [] ↔ cs = [] :=
  @encoded_inj cs []

/-- The pieces of the bytes are the bytes of the pieces. -/
theorem pieces_encoded (cs : List Char) : pieces (encoded cs) = (pieces cs).map encoded := by
  induction cs with
  | nil => rfl
  | cons c cs ih =>
      obtain ⟨first, rest, hpieces⟩ := exists_pieces_eq_cons cs
      rw [hpieces, List.map_cons] at ih
      rw [pieces_cons c hpieces, encoded, List.flatMap_cons]
      by_cases hslash : c = slash
      · rw [if_pos hslash, hslash]
        exact pieces_cons slash ih
      · have hbytes : slash ∉ String.utf8EncodeChar c := mt slash_mem_utf8EncodeChar.mp hslash
        rw [if_neg hslash]
        exact pieces_append_of_notMem hbytes ih

theorem pieces_ofString (text : String) :
    pieces (ofString text).bytes = (pieces text.toList).map encoded :=
  pieces_encoded text.toList

/-- Bytes carry a meaning if their characters do. -/
theorem isIdle_encoded (piece : List Char) : isIdle (encoded piece) = isIdle piece := by
  have hpoint : encoded piece = [point] ↔ piece = [point] := @encoded_inj piece [point]
  rw [Bool.eq_iff_iff]
  simp [isIdle, hpoint]

/-- The steps of the bytes are the bytes of the steps. -/
theorem steps_ofString (text : String) :
    steps (ofString text).bytes = (steps text.toList).map encoded := by
  have hkept : (fun piece => !isIdle piece) ∘ encoded = fun piece => !isIdle piece := by
    funext piece
    simp [isIdle_encoded]
  rw [steps, steps, pieces_ofString, List.filter_map, hkept]

theorem startsAtRoot_ofString (text : String) :
    startsAtRoot (ofString text).bytes = isAbsolute text := by
  rw [Bool.eq_iff_iff, isAbsolute, startsAtRoot_iff, startsAtRoot_iff, pieces_ofString]
  simp [List.map_eq_cons_iff]

/-- A text carries a meaning unless it is empty or a point. -/
theorem isIdle_toList : isIdle text.toList = true ↔ text = "" ∨ text = "." := by
  rw [← String.toList_inj, ← String.toList_inj]
  simp [isIdle, point]

/-- A name that is a text is a step, if it carries a meaning. -/
theorem steps_of_name (hslash : '/' ∉ text.toList) (hempty : text ≠ "") (hpoint : text ≠ ".") :
    steps (ofString text).bytes = [(ofString text).bytes] := by
  refine steps_of_notMem (mt slash_mem_ofString.mp hslash) ?_
  rw [← Bool.not_eq_true]
  intro hidle
  rw [ofString, ← encoded, isIdle_encoded, isIdle_toList] at hidle
  exact hidle.elim hempty hpoint

/-- A text leads up if it is the sign for that. -/
theorem ofString_eq_up : (ofString text).bytes = up ↔ text = ".." :=
  @bytes_inj text ".."

end OfString

end QueryCanvas.Path
