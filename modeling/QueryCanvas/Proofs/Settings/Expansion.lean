import Mathlib.Data.List.Forall2
import Mathlib.Data.List.TakeWhile
import QueryCanvas.Settings.Basic

/-!
# Texts are expanded once, from the left

`Segmented` says which pieces a text has: a brace after a dollar sign opens a reference up to the
next closing brace, a name is as long as it can be, and any other dollar sign stands for itself.
Every text has exactly one such list of pieces (`segmented_iff`). The values of the variables are
put in the places of the references, and the first variable without a value decides where there is
one (`fill_eq_ok_iff`, `fill_eq_error_iff`). `expand_exact` says so of expanded texts, and of the
addresses of services.
-/

namespace QueryCanvas

/-- What a piece becomes: a literal stays as it is, and a reference becomes the value of its
variable. -/
inductive Piece.Becomes (value? : String → Option String) : Piece → List Char → Prop where
  | literal (c : Char) : Becomes value? (.literal c) [c]
  | reference {piece name value} :
      piece.reference? = some name → value? name = some value →
      Becomes value? piece value.toList

namespace Expansion

/-- The characters make a reference of a dollar sign before them. -/
def Opens (cs : List Char) : Prop :=
  ∃ c ∈ cs.head?, c = '{' ∨ isNameChar c = true

/-- The pieces of the characters, read from the left. -/
inductive Segmented : List Char → List Piece → Prop where
  | done : Segmented [] []
  | literal {c cs ps} :
      (c = '$' → ¬ Opens cs) → Segmented cs ps → Segmented (c :: cs) (.literal c :: ps)
  | closed {name cs ps} :
      '}' ∉ name → Segmented cs ps →
      Segmented ('$' :: '{' :: (name ++ '}' :: cs)) (.braced name true :: ps)
  | unclosed {name} : '}' ∉ name → Segmented ('$' :: '{' :: name) [.braced name false]
  | bare {name cs ps} :
      name ≠ [] → (∀ c ∈ name, isNameChar c = true) → (∀ c ∈ cs.head?, isNameChar c = false) →
      Segmented cs ps → Segmented ('$' :: (name ++ cs)) (.bare name :: ps)

variable {value? other? : String → Option String} {c : Char} {cs name : List Char}
  {ps : List Piece}

/-! ## The pieces of a text -/

theorem splitBrace_closed (hname : '}' ∉ name) (cs : List Char) :
    splitBrace (name ++ '}' :: cs) = (name, some cs) := by
  induction name with
  | nil => simp [splitBrace]
  | cons c name ih =>
      rw [List.mem_cons, not_or] at hname
      rw [List.cons_append, splitBrace, if_neg (Ne.symm hname.1), ih hname.2]

theorem splitBrace_unclosed (hname : '}' ∉ name) : splitBrace name = (name, none) := by
  induction name with
  | nil => rfl
  | cons c name ih =>
      rw [List.mem_cons, not_or] at hname
      rw [splitBrace, if_neg (Ne.symm hname.1), ih hname.2]

theorem pieces_literal (hc : c = '$' → ¬ Opens cs) :
    pieces (c :: cs) = .literal c :: pieces cs := by
  rw [pieces.eq_def]
  by_cases hdollar : c = '$'
  · subst hdollar
    have hcs := hc rfl
    cases cs with
    | nil => simp [pieces]
    | cons d ds =>
        have hd : d ≠ '{' ∧ isNameChar d = false := by simpa [Opens] using hcs
        simp [hd.1, hd.2]
  · simp [hdollar]

/-- What stands after an opened brace is read on behind its closing brace, if there is one. -/
theorem pieces_opened (cs : List Char) :
    pieces ('$' :: '{' :: cs) =
      (splitBrace cs).2.elim [.braced (splitBrace cs).1 false] fun rest =>
        .braced (splitBrace cs).1 true :: pieces rest := by
  rw [pieces.eq_def]
  simp only [if_true]
  split
  · next hbrace => rw [hbrace, Option.elim_none]
  · next hbrace => rw [hbrace, Option.elim_some]

theorem pieces_closed (hname : '}' ∉ name) (cs : List Char) :
    pieces ('$' :: '{' :: (name ++ '}' :: cs)) = .braced name true :: pieces cs := by
  rw [pieces_opened, splitBrace_closed hname, Option.elim_some]

theorem pieces_unclosed (hname : '}' ∉ name) :
    pieces ('$' :: '{' :: name) = [.braced name false] := by
  rw [pieces_opened, splitBrace_unclosed hname, Option.elim_none]

theorem pieces_bare (hne : name ≠ []) (hname : ∀ c ∈ name, isNameChar c = true)
    (hcs : ∀ c ∈ cs.head?, isNameChar c = false) :
    pieces ('$' :: (name ++ cs)) = .bare name :: pieces cs := by
  obtain ⟨d, ds, rfl⟩ := List.exists_cons_of_ne_nil hne
  have hd : isNameChar d = true := hname d List.mem_cons_self
  have hbrace : d ≠ '{' := by
    rintro rfl
    exact absurd hd (by decide)
  have hds : ∀ c ∈ ds, isNameChar c = true := fun c hc => hname c (List.mem_cons_of_mem d hc)
  have hstop : cs.takeWhile isNameChar = [] ∧ cs.dropWhile isNameChar = cs := by
    cases cs with
    | nil => exact ⟨rfl, rfl⟩
    | cons c cs => simp [hcs c rfl]
  rw [List.cons_append, pieces.eq_def]
  simp only [if_true, if_neg hbrace, hd]
  rw [List.takeWhile_append_of_pos hds, List.dropWhile_append_of_pos hds, hstop.1, hstop.2,
    List.append_nil]

theorem Segmented.eq_pieces (h : Segmented cs ps) : ps = pieces cs := by
  induction h with
  | done => rw [pieces]
  | literal hc _ ih => rw [pieces_literal hc, ih]
  | closed hname _ ih => rw [pieces_closed hname, ih]
  | unclosed hname => rw [pieces_unclosed hname]
  | bare hne hname hcs _ ih => rw [pieces_bare hne hname hcs, ih]

theorem brace_not_mem_splitBrace (cs : List Char) : '}' ∉ (splitBrace cs).1 := by
  induction cs with
  | nil => simp [splitBrace]
  | cons c cs ih =>
      rw [splitBrace]
      split
      · exact List.not_mem_nil
      · rename_i hc
        rw [List.mem_cons, not_or]
        exact ⟨Ne.symm hc, ih⟩

/-- The pieces of the characters are read from the left. -/
theorem segmented_pieces (cs : List Char) : Segmented cs (pieces cs) := by
  fun_induction pieces cs with
  | case1 => exact .done
  | case2 => exact .literal (fun _ h => by simp [Opens] at h) .done
  | case3 ds name hds =>
      have hname : '}' ∉ name := by simpa [hds] using brace_not_mem_splitBrace ds
      have hspelling := splitBrace_spelling ds
      rw [hds, List.append_nil] at hspelling
      exact hspelling ▸ .unclosed hname
  | case4 ds name rest hds _ ih =>
      have hname : '}' ∉ name := by simpa [hds] using brace_not_mem_splitBrace ds
      have hspelling := splitBrace_spelling ds
      rw [hds] at hspelling
      exact hspelling ▸ .closed hname ih
  | case5 d ds hbrace hd _ ih =>
      have hname : ∀ c ∈ d :: ds.takeWhile isNameChar, isNameChar c = true := by
        intro c hc
        rcases List.mem_cons.mp hc with rfl | hc
        · exact hd
        · exact List.mem_takeWhile_imp hc
      have hstop : ∀ c ∈ (ds.dropWhile isNameChar).head?, isNameChar c = false := by
        intro c hc
        have hhead := List.head?_dropWhile_not isNameChar ds
        rw [Option.mem_def.mp hc] at hhead
        simpa using hhead
      have hbare := Segmented.bare (List.cons_ne_nil d _) hname hstop ih
      rwa [List.cons_append, List.takeWhile_append_dropWhile] at hbare
  | case6 d ds hbrace hd ih =>
      exact .literal (fun _ hopens => by simp [Opens, hbrace, hd] at hopens) ih
  | case7 c cs hc ih => exact .literal (fun h => absurd h hc) ih

/-- The characters have one list of pieces. -/
theorem segmented_iff : Segmented cs ps ↔ ps = pieces cs :=
  ⟨Segmented.eq_pieces, fun h => h ▸ segmented_pieces cs⟩

/-- Characters without a dollar sign are literals. -/
theorem segmented_literals (hcs : '$' ∉ cs) : Segmented cs (cs.map .literal) := by
  induction cs with
  | nil => exact .done
  | cons c cs ih =>
      rw [List.mem_cons, not_or] at hcs
      exact .literal (fun hc => absurd hc.symm hcs.1) (ih hcs.2)

/-! ## Values in the places of references -/

variable {piece : Piece} {part out : List Char} {variableName : String}

/-- A piece becomes something unless it refers to a variable without a value. -/
theorem becomes_or_unset (value? : String → Option String) (piece : Piece) :
    (∃ part, piece.Becomes value? part) ∨
      ∃ name, piece.reference? = some name ∧ value? name = none := by
  have hreference : ∀ name, piece.reference? = some name →
      (∃ part, piece.Becomes value? part) ∨
        ∃ name, piece.reference? = some name ∧ value? name = none := by
    intro name hname
    cases hvalue : value? name with
    | none => exact .inr ⟨name, hname, hvalue⟩
    | some value => exact .inl ⟨value.toList, .reference hname hvalue⟩
  cases piece with
  | literal c => exact .inl ⟨[c], .literal c⟩
  | bare name => exact hreference _ rfl
  | braced name closed => exact hreference _ rfl

theorem fill_cons (hpart : piece.Becomes value? part) (ps : List Piece) :
    fill value? (piece :: ps) = (fill value? ps).map (part ++ ·) := by
  cases hpart with
  | literal c =>
      rw [fill]
      cases fill value? ps <;> rfl
  | reference hname hvalue =>
      rw [fill, hname]
      simp only [hvalue]
      cases fill value? ps <;> rfl

theorem fill_cons_unset (hname : piece.reference? = some variableName)
    (hvalue : value? variableName = none) (ps : List Piece) :
    fill value? (piece :: ps) = .error variableName := by
  rw [fill, hname]
  simp only [hvalue]
  rfl

theorem references_cons (hname : piece.reference? = some variableName) (ps : List Piece) :
    (piece :: ps).filterMap Piece.reference? = variableName :: ps.filterMap Piece.reference? := by
  rw [List.filterMap_cons, hname]

/-- Pieces are filled with what they become, one after another. -/
theorem fill_eq_ok_iff :
    fill value? ps = .ok out ↔
      ∃ parts, List.Forall₂ (Piece.Becomes value?) ps parts ∧ out = parts.flatten := by
  induction ps generalizing out with
  | nil =>
      constructor
      · intro h
        cases h
        exact ⟨[], .nil, rfl⟩
      · rintro ⟨parts, hparts, rfl⟩
        cases hparts
        rfl
  | cons piece ps ih =>
      constructor
      · intro h
        rcases becomes_or_unset value? piece with ⟨part, hpart⟩ | ⟨name, hname, hvalue⟩
        · rw [fill_cons hpart] at h
          cases hrest : fill value? ps with
          | error name =>
              rw [hrest] at h
              cases h
          | ok rest =>
              rw [hrest] at h
              cases h
              obtain ⟨parts, hparts, rfl⟩ := ih.mp hrest
              exact ⟨part :: parts, .cons hpart hparts, rfl⟩
        · rw [fill_cons_unset hname hvalue] at h
          cases h
      · rintro ⟨_, hparts, rfl⟩
        cases hparts with
        | cons hpart hparts =>
            rw [fill_cons hpart, ih.mpr ⟨_, hparts, rfl⟩]
            rfl

/-- Filling pieces fails at the first variable without a value. -/
theorem fill_eq_error_iff :
    fill value? ps = .error variableName ↔
      (ps.filterMap Piece.reference?).find? (fun name => (value? name).isNone) =
        some variableName := by
  induction ps with
  | nil => simp [fill]
  | cons piece ps ih =>
      rcases becomes_or_unset value? piece with ⟨part, hpart⟩ | ⟨name, hname, hvalue⟩
      · have hrefers : ((piece :: ps).filterMap Piece.reference?).find?
            (fun name => (value? name).isNone) =
              (ps.filterMap Piece.reference?).find? (fun name => (value? name).isNone) := by
          cases hpart with
          | literal c => rfl
          | reference hname hvalue =>
              rw [references_cons hname, List.find?_cons_of_neg (by simp [hvalue])]
        rw [fill_cons hpart, hrefers, ← ih]
        cases fill value? ps <;> simp [Except.map]
      · rw [fill_cons_unset hname hvalue, references_cons hname,
          List.find?_cons_of_pos (by simp [hvalue]), Except.error.injEq, Option.some.injEq]

/-- Only the values of the variables that pieces refer to make a difference. -/
theorem fill_congr
    (hvalues : ∀ name ∈ ps.filterMap Piece.reference?, value? name = other? name) :
    fill value? ps = fill other? ps := by
  induction ps with
  | nil => rfl
  | cons piece ps ih =>
      cases hname : piece.reference? with
      | none =>
          rw [List.filterMap_cons, hname] at hvalues
          rw [fill, fill, hname, ih hvalues]
      | some name =>
          rw [references_cons hname] at hvalues
          rw [fill, fill, hname, ih fun n hn => hvalues n (List.mem_cons_of_mem name hn)]
          simp only [hvalues name List.mem_cons_self]

/-! ## Texts -/

variable {text : String}

theorem expand_eq_ok_iff {expanded : String} :
    expand value? text = .ok expanded ↔
      ∃ parts, List.Forall₂ (Piece.Becomes value?) (pieces text.toList) parts ∧
        expanded = String.ofList parts.flatten := by
  rw [expand]
  constructor
  · intro h
    cases hfilled : fill value? (pieces text.toList) with
    | error name =>
        rw [hfilled] at h
        cases h
    | ok out =>
        rw [hfilled] at h
        cases h
        obtain ⟨parts, hparts, rfl⟩ := fill_eq_ok_iff.mp hfilled
        exact ⟨parts, hparts, rfl⟩
  · rintro ⟨parts, hparts, rfl⟩
    rw [fill_eq_ok_iff.mpr ⟨parts, hparts, rfl⟩]
    rfl

theorem expand_eq_error_iff :
    expand value? text = .error variableName ↔
      (references text).find? (fun name => (value? name).isNone) = some variableName := by
  rw [references, ← fill_eq_error_iff, expand]
  cases fill value? (pieces text.toList) <;> simp [Except.map]

/-- A text cannot be expanded exactly if it refers to a variable without a value. -/
theorem exists_expand_eq_error_iff :
    (∃ name, expand value? text = .error name) ↔ ∃ name ∈ references text, value? name = none := by
  simp only [expand_eq_error_iff, ← Option.isSome_iff_exists, List.find?_isSome,
    Option.isNone_iff_eq_none]

theorem expand_congr (hvalues : ∀ name ∈ references text, value? name = other? name) :
    expand value? text = expand other? text := by
  rw [expand, expand, fill_congr hvalues]

/-- A text without a dollar sign stays as it is. -/
theorem expand_literals (htext : '$' ∉ text.toList) (value? : String → Option String) :
    expand value? text = .ok text := by
  have hbecomes : ∀ cs : List Char,
      List.Forall₂ (Piece.Becomes value?) (cs.map .literal) (cs.map fun c => [c]) := by
    intro cs
    induction cs with
    | nil => exact .nil
    | cons c cs ih => exact .cons (.literal c) ih
  rw [expand_eq_ok_iff, ← (segmented_literals htext).eq_pieces]
  exact ⟨_, hbecomes _, by simp [← List.flatMap_def]⟩

end Expansion

namespace Settings

variable {host : Host Id} {names : List String} {name : String}

theorem environmentValues_eq (host : Host Id) (names : List String) :
    environmentValues host names =
      names.filterMap fun name => (host.environment name).map (name, ·) := by
  have hvalues : (names.mapM fun name => do return (name, ← host.environment name) : Id _) =
      names.map fun name => (name, host.environment name) := by
    induction names with
    | nil => rfl
    | cons first names ih => rw [List.mapM_cons, ih]; rfl
  rw [environmentValues, hvalues]
  exact List.filterMap_map

/-- The values that are collected are those that the environment has for the names. -/
theorem lookup_environmentValues (host : Host Id) (names : List String) (name : String) :
    List.lookup name (environmentValues host names) =
      if name ∈ names then host.environment name else none := by
  rw [environmentValues_eq]
  induction names with
  | nil => rfl
  | cons first names ih =>
      by_cases hfirst : name = first
      · subst hfirst
        rw [if_pos List.mem_cons_self]
        cases hvalue : host.environment name with
        | some value => simp [hvalue]
        | none =>
            -- A later place of the name has no value either.
            simp [hvalue, ih]
      · have hmem : name ∈ first :: names ↔ name ∈ names := by simp [hfirst]
        rw [if_congr hmem rfl rfl, ← ih]
        cases hvalue : host.environment first with
        | some value => simp [hvalue, List.lookup_cons, beq_false_of_ne hfirst]
        | none => simp [hvalue]

/-- A service has no address exactly if none is configured, or if it refers to a variable without a
value. -/
theorem exists_serviceAddress_eq_error_iff {s : Settings} {service : Service}
    {value? : String → Option String} :
    (∃ e, s.serviceAddress value? service = .error e) ↔
      s.service? service = none ∨ ∃ text, s.service? service = some text ∧
        ∃ name ∈ Expansion.references text, value? name = none := by
  rw [serviceAddress]
  cases s.service? service with
  | none => simp
  | some text =>
      simp only [reduceCtorEq, false_or, Option.some.injEq, exists_eq_left',
        ← Expansion.exists_expand_eq_error_iff]
      cases expand value? text <;> simp

/-- The address of a service is expanded with the values of the environment. -/
theorem addressOn_eq {s : Settings} {service : Service} {text : String}
    (hservice : s.service? service = some text) (host : Host Id) :
    s.addressOn host service =
      (expand host.environment text).mapError SettingsError.missingVariable := by
  have hcollected : ∀ name ∈ Expansion.references text,
      List.lookup name (environmentValues host (Expansion.references text)) =
        host.environment name := by
    intro name hname
    rw [lookup_environmentValues, if_pos hname]
  have hexpanded : s.addressOn host service = s.serviceAddress
      (fun name => List.lookup name (environmentValues host (Expansion.references text)))
      service := by
    rw [addressOn, hservice]
    rfl
  rw [hexpanded, serviceAddress, hservice]
  simp only [Expansion.expand_congr hcollected]
  cases expand host.environment text <;> rfl

end Settings

open Expansion

/-- Expanding a text is one substitution from the left. The text has one list of pieces. It expands
to what its pieces become, the values of variables among them as they are, and fails exactly if it
refers to a variable without a value, at the first such variable. No other variable makes a
difference, and a text without a dollar sign stays as it is. The address of a service is expanded
so in the environment. -/
theorem expand_exact (text : String) :
    ∃ ps : List Piece,
      (∀ other, Segmented text.toList other ↔ other = ps) ∧
      join ps = text.toList ∧
      (∀ value? expanded, expand value? text = .ok expanded ↔
        ∃ parts, List.Forall₂ (Piece.Becomes value?) ps parts ∧
          expanded = String.ofList parts.flatten) ∧
      (∀ value? name, expand value? text = .error name ↔
        (ps.filterMap Piece.reference?).find? (fun n => (value? n).isNone) = some name) ∧
      (∀ value?, (∃ name, expand value? text = .error name) ↔
        ∃ name ∈ ps.filterMap Piece.reference?, value? name = none) ∧
      (∀ value? other?, (∀ name ∈ ps.filterMap Piece.reference?, value? name = other? name) →
        expand value? text = expand other? text) ∧
      ('$' ∉ text.toList → ∀ value?, expand value? text = .ok text) ∧
      ∀ (host : Host Id) (s : Settings) (service : Service), s.service? service = some text →
        s.addressOn host service =
          (expand host.environment text).mapError SettingsError.missingVariable := by
  exact ⟨pieces text.toList, fun _ => segmented_iff, join_pieces text.toList,
    fun _ _ => expand_eq_ok_iff, fun _ _ => expand_eq_error_iff,
    fun _ => exists_expand_eq_error_iff, fun _ _ => expand_congr, expand_literals,
    fun host s service hservice => Settings.addressOn_eq hservice host⟩

/-- A value with a dollar sign is not read again. -/
example :
    expand (fun name => if name = "A" then some "$A" else none) "${A}$A-$" = .ok "$A$A-$" := by
  cbv

end QueryCanvas
