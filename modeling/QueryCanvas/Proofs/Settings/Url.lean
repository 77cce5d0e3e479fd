import Mathlib.Data.List.TakeWhile
import QueryCanvas.Settings.Url

/-!
# The junctions of URLs

A trim is told by what it leaves: what it takes is a block of slashes, and what is left shows no
slash at that end (`trimStartSlashes_eq_iff`, `trimEndSlashes_eq_iff`). Of two parts, a trim goes on
to the farther one only if it leaves nothing of the nearer one. So the slash between two parts is
trimmed again exactly if the part beyond it has nothing but slashes, which is why URLs may be joined
in either order (`joinUrl_assoc`). `joinUrl_laws` adds what stands at a junction.
-/

namespace QueryCanvas

variable {cs xs : List Char}

/-! ## Trimming -/

/-- The end of a text is the start of the reversed text. -/
theorem reverse_trimEndSlashes (cs : List Char) :
    (trimEndSlashes cs).reverse = trimStartSlashes cs.reverse :=
  List.reverse_reverse _

/-- Nothing is left exactly of slashes. -/
theorem trimStartSlashes_eq_nil_iff : trimStartSlashes cs = [] ↔ ∀ c ∈ cs, c = '/' := by
  rw [trimStartSlashes, List.dropWhile_eq_nil_iff]
  simp only [beq_iff_eq]

theorem trimEndSlashes_eq_nil_iff : trimEndSlashes cs = [] ↔ ∀ c ∈ cs, c = '/' := by
  rw [← List.reverse_eq_nil_iff, reverse_trimEndSlashes, trimStartSlashes_eq_nil_iff]
  simp only [List.mem_reverse]

/-- A trim goes on to the second part if it leaves nothing of the first. -/
theorem trimStartSlashes_append_of_nil (hnil : trimStartSlashes xs = []) (ys : List Char) :
    trimStartSlashes (xs ++ ys) = trimStartSlashes ys := by
  refine List.dropWhile_append_of_pos ?_
  intro c hc
  rw [trimStartSlashes_eq_nil_iff.mp hnil c hc]
  rfl

/-- A trim that leaves something of the first part does not touch the second. -/
theorem trimStartSlashes_append_of_ne (hne : trimStartSlashes xs ≠ []) (ys : List Char) :
    trimStartSlashes (xs ++ ys) = trimStartSlashes xs ++ ys := by
  show (xs ++ ys).dropWhile (· == '/') = _
  rw [List.dropWhile_append, if_neg]
  · rfl
  · rw [List.isEmpty_iff]
    exact hne

theorem trimEndSlashes_append_of_nil {ys : List Char} (hnil : trimEndSlashes ys = []) :
    trimEndSlashes (xs ++ ys) = trimEndSlashes xs := by
  have hreversed : trimStartSlashes ys.reverse = [] := by
    rw [← reverse_trimEndSlashes, hnil]
    rfl
  rw [← List.reverse_inj, reverse_trimEndSlashes, List.reverse_append,
    trimStartSlashes_append_of_nil hreversed, reverse_trimEndSlashes]

theorem trimEndSlashes_append_of_ne {ys : List Char} (hne : trimEndSlashes ys ≠ []) :
    trimEndSlashes (xs ++ ys) = xs ++ trimEndSlashes ys := by
  have hreversed : trimStartSlashes ys.reverse ≠ [] := by
    rw [← reverse_trimEndSlashes]
    exact List.reverse_ne_nil_iff.mpr hne
  rw [← List.reverse_inj, reverse_trimEndSlashes, List.reverse_append,
    trimStartSlashes_append_of_ne hreversed, ← reverse_trimEndSlashes, List.reverse_append]

/-- A block of slashes is trimmed away. -/
theorem trimStartSlashes_replicate (n : Nat) : trimStartSlashes (List.replicate n '/') = [] := by
  refine trimStartSlashes_eq_nil_iff.mpr ?_
  intro c hc
  exact List.eq_of_mem_replicate hc

theorem trimEndSlashes_replicate (n : Nat) : trimEndSlashes (List.replicate n '/') = [] := by
  rw [← List.reverse_eq_nil_iff, reverse_trimEndSlashes, List.reverse_replicate,
    trimStartSlashes_replicate]

/-- A trim at the start leaves `tip` exactly if a block of slashes stands before it, and no slash
begins it. -/
theorem trimStartSlashes_eq_iff {tip : List Char} :
    trimStartSlashes cs = tip ↔
      (∃ n, cs = List.replicate n '/' ++ tip) ∧ tip.head? ≠ some '/' := by
  constructor
  · rintro rfl
    constructor
    · refine ⟨(cs.takeWhile (· == '/')).length, ?_⟩
      have hblock : cs.takeWhile (· == '/') =
          List.replicate (cs.takeWhile (· == '/')).length '/' := by
        refine List.eq_replicate_iff.mpr ⟨rfl, ?_⟩
        intro c hc
        exact eq_of_beq (List.mem_takeWhile_imp (p := (· == '/')) hc)
      rw [← hblock]
      exact List.takeWhile_append_dropWhile.symm
    · intro hslash
      have hhead := List.head?_dropWhile_not (· == '/') cs
      rw [show (cs.dropWhile (· == '/')).head? = some '/' from hslash] at hhead
      exact Bool.false_ne_true hhead.symm
  · rintro ⟨⟨n, rfl⟩, hhead⟩
    rw [trimStartSlashes_append_of_nil (trimStartSlashes_replicate n)]
    cases tip with
    | nil => rfl
    | cons c tip =>
        have hc : c ≠ '/' := by simpa using hhead
        simp [trimStartSlashes, hc]

/-- A trim at the end leaves `stem` exactly if a block of slashes stands after it, and no slash
ends it. -/
theorem trimEndSlashes_eq_iff {stem : List Char} :
    trimEndSlashes cs = stem ↔
      (∃ n, cs = stem ++ List.replicate n '/') ∧ stem.getLast? ≠ some '/' := by
  rw [← List.reverse_inj, reverse_trimEndSlashes, trimStartSlashes_eq_iff, List.head?_reverse]
  simp only [List.reverse_eq_iff, List.reverse_append, List.reverse_reverse,
    List.reverse_replicate]

/-- Trimming twice is trimming once. -/
theorem trimStartSlashes_idem (cs : List Char) :
    trimStartSlashes (trimStartSlashes cs) = trimStartSlashes cs := by
  obtain ⟨-, hhead⟩ := trimStartSlashes_eq_iff.mp (Eq.refl (trimStartSlashes cs))
  exact trimStartSlashes_eq_iff.mpr ⟨⟨0, rfl⟩, hhead⟩

theorem trimEndSlashes_idem (cs : List Char) :
    trimEndSlashes (trimEndSlashes cs) = trimEndSlashes cs := by
  obtain ⟨-, hlast⟩ := trimEndSlashes_eq_iff.mp (Eq.refl (trimEndSlashes cs))
  exact trimEndSlashes_eq_iff.mpr ⟨⟨0, (List.append_nil _).symm⟩, hlast⟩

/-- The two ends may be trimmed in either order. -/
theorem trimStartSlashes_trimEndSlashes (cs : List Char) :
    trimStartSlashes (trimEndSlashes cs) = trimEndSlashes (trimStartSlashes cs) := by
  obtain ⟨⟨n, hcs⟩, hhead⟩ := trimStartSlashes_eq_iff.mp (Eq.refl (trimStartSlashes cs))
  obtain ⟨⟨k, htip⟩, -⟩ := trimEndSlashes_eq_iff.mp (Eq.refl (trimEndSlashes (trimStartSlashes cs)))
  by_cases hnil : trimEndSlashes (trimStartSlashes cs) = []
  · have hend : trimEndSlashes cs = [] := by
      rw [hcs, trimEndSlashes_append_of_nil hnil, trimEndSlashes_replicate]
    rw [hend, hnil]
    rfl
  · have hend : trimEndSlashes cs =
        List.replicate n '/' ++ trimEndSlashes (trimStartSlashes cs) :=
      (congrArg trimEndSlashes hcs).trans (trimEndSlashes_append_of_ne hnil)
    refine trimStartSlashes_eq_iff.mpr ⟨⟨n, hend⟩, ?_⟩
    -- What is left between the two blocks begins as the text without the first block does.
    intro hslash
    rw [htip, List.head?_append, hslash] at hhead
    exact hhead rfl

/-! ## Joining -/

theorem toList_joinUrl (base path : String) :
    (joinUrl base path).toList =
      trimEndSlashes base.toList ++ '/' :: trimStartSlashes path.toList :=
  String.toList_ofList

/-- Three URLs may be joined in either order. If there is nothing but slashes in the middle, the
slash of the first junction is trimmed away with it. -/
theorem joinUrl_assoc (a b c : String) :
    joinUrl (joinUrl a b) c = joinUrl a (joinUrl b c) := by
  rw [← String.toList_inj]
  simp only [toList_joinUrl]
  have hslash : trimEndSlashes ['/'] = [] := rfl
  by_cases hnil : trimEndSlashes (trimStartSlashes b.toList) = []
  · have hmiddle : trimEndSlashes ('/' :: trimStartSlashes b.toList) = [] := by
      show trimEndSlashes (['/'] ++ trimStartSlashes b.toList) = []
      rw [trimEndSlashes_append_of_nil hnil, hslash]
    have hnone : trimStartSlashes (trimEndSlashes b.toList) = [] := by
      rw [trimStartSlashes_trimEndSlashes, hnil]
    have hpath : trimStartSlashes ('/' :: trimStartSlashes c.toList) =
        trimStartSlashes c.toList := trimStartSlashes_idem c.toList
    rw [trimEndSlashes_append_of_nil hmiddle, trimEndSlashes_idem,
      trimStartSlashes_append_of_nil hnone, hpath]
  · have hmiddle : trimEndSlashes ('/' :: trimStartSlashes b.toList) =
        '/' :: trimEndSlashes (trimStartSlashes b.toList) := by
      show trimEndSlashes (['/'] ++ trimStartSlashes b.toList) = _
      exact trimEndSlashes_append_of_ne hnil
    have hsome : trimStartSlashes (trimEndSlashes b.toList) ≠ [] := by
      rw [trimStartSlashes_trimEndSlashes]
      exact hnil
    have hkept : trimEndSlashes ('/' :: trimStartSlashes b.toList) ≠ [] := by
      rw [hmiddle]
      exact List.cons_ne_nil _ _
    rw [trimEndSlashes_append_of_ne hkept, hmiddle, trimStartSlashes_append_of_ne hsome,
      trimStartSlashes_trimEndSlashes, List.append_assoc]
    rfl

/-- A text of slashes. -/
def slashes (n : Nat) : String :=
  String.ofList (List.replicate n '/')

/-- The base is the stem with slashes after it, and the path is the tip with slashes before it.
There is no slash where the two will meet, and one of them is empty exactly if its part has nothing
but slashes. -/
structure Junction (base path stem tip : String) : Prop where
  base_eq : ∃ n, base = stem ++ slashes n
  path_eq : ∃ n, path = slashes n ++ tip
  stem_end : stem.toList.getLast? ≠ some '/'
  tip_start : tip.toList.head? ≠ some '/'
  stem_empty : stem = "" ↔ ∀ c ∈ base.toList, c = '/'
  tip_empty : tip = "" ↔ ∀ c ∈ path.toList, c = '/'

/-- The trimmed parts meet at a junction. -/
theorem junction_trimmed (base path : String) :
    Junction base path (String.ofList (trimEndSlashes base.toList))
      (String.ofList (trimStartSlashes path.toList)) := by
  obtain ⟨⟨n, hbase⟩, hlast⟩ := trimEndSlashes_eq_iff.mp (Eq.refl (trimEndSlashes base.toList))
  obtain ⟨⟨k, hpath⟩, hhead⟩ :=
    trimStartSlashes_eq_iff.mp (Eq.refl (trimStartSlashes path.toList))
  constructor
  · refine ⟨n, String.toList_inj.mp ?_⟩
    rw [String.toList_append, String.toList_ofList, slashes, String.toList_ofList]
    exact hbase
  · refine ⟨k, String.toList_inj.mp ?_⟩
    rw [String.toList_append, String.toList_ofList, slashes, String.toList_ofList]
    exact hpath
  · rw [String.toList_ofList]
    exact hlast
  · rw [String.toList_ofList]
    exact hhead
  · rw [← String.toList_inj, String.toList_ofList]
    exact trimEndSlashes_eq_nil_iff
  · rw [← String.toList_inj, String.toList_ofList]
    exact trimStartSlashes_eq_nil_iff

/-- The laws of joining. It is associative, for all parts. Further slashes at a junction do not
matter. The result is the base without the slashes at its end, one slash, and the path without the
slashes at its start; all other slashes are kept. -/
theorem joinUrl_laws (a b c : String) (j k : Nat) :
    joinUrl (joinUrl a b) c = joinUrl a (joinUrl b c) ∧
    joinUrl (a ++ slashes j) (slashes k ++ b) = joinUrl a b ∧
    ∃ stem tip, Junction a b stem tip ∧ joinUrl a b = stem ++ "/" ++ tip := by
  refine ⟨joinUrl_assoc a b c, ?_, _, _, junction_trimmed a b, ?_⟩
  · rw [← String.toList_inj, toList_joinUrl, toList_joinUrl, String.toList_append,
      String.toList_append, slashes, slashes, String.toList_ofList, String.toList_ofList,
      trimEndSlashes_append_of_nil (trimEndSlashes_replicate j),
      trimStartSlashes_append_of_nil (trimStartSlashes_replicate k)]
  · rw [← String.toList_inj, toList_joinUrl]
    simp only [String.toList_append, String.toList_ofList, List.append_assoc]
    rfl

/-- The slashes inside of the parts and at the end of the path are kept. -/
example : joinUrl "http://host//" "//a//b/" = "http://host/a//b/" := by decide

end QueryCanvas
