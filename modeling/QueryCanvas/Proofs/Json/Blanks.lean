import QueryCanvas.Proofs.Json.Pieces

/-!
# Blanks outside of texts

A scan that knows whether it stands inside a text drops the blanks outside of texts and keeps every
character of a text (`withoutBlanks`). What it leaves of any spelling of a value is the compact form
of the value (`Spells.withoutBlanks_eq`).
-/

namespace QueryCanvas.Json

/-- Where a scan stands: outside of texts, in a text, or after a backslash in a text. -/
inductive Standing where
  | outside
  | inText
  | escaped
deriving DecidableEq, Repr

/-- Where a scan stands after a character. -/
def Standing.next : Standing → Char → Standing
  | .outside, c => if c = '"' then .inText else .outside
  | .inText, c => if c = '"' then .outside else if c = '\\' then .escaped else .inText
  | .escaped, _ => .inText

/-- The characters without the blanks that stand outside of texts. -/
def withoutBlanks : Standing → List Char → List Char
  | _, [] => []
  | standing, c :: cs =>
      if standing = .outside ∧ isBlankChar c then withoutBlanks standing cs
      else c :: withoutBlanks (standing.next c) cs

/-! ## Pieces -/

theorem Blank.withoutBlanks_append {ws : List Char} (hws : Blank ws) (rest : List Char) :
    withoutBlanks .outside (ws ++ rest) = withoutBlanks .outside rest := by
  induction ws with
  | nil => rfl
  | cons c ws ih =>
      rw [List.cons_append, withoutBlanks, if_pos ⟨rfl, hws c List.mem_cons_self⟩]
      exact ih fun d hd => hws d (List.mem_cons_of_mem c hd)

/-- Characters that neither are blank nor open a text are kept. -/
theorem withoutBlanks_append {cs : List Char} (hcs : ∀ c ∈ cs, isBlankChar c = false ∧ c ≠ '"')
    (rest : List Char) :
    withoutBlanks .outside (cs ++ rest) = cs ++ withoutBlanks .outside rest := by
  induction cs with
  | nil => rfl
  | cons c cs ih =>
      obtain ⟨hblank, hquote⟩ := hcs c List.mem_cons_self
      have hrest := ih fun d hd => hcs d (List.mem_cons_of_mem c hd)
      rw [List.cons_append, withoutBlanks, if_neg (by simp [hblank]), Standing.next, if_neg hquote,
        hrest, List.cons_append]

/-- A character that neither is blank nor opens a text is kept. -/
theorem withoutBlanks_cons {c : Char} (hblank : isBlankChar c = false) (hquote : c ≠ '"')
    (rest : List Char) : withoutBlanks .outside (c :: rest) = c :: withoutBlanks .outside rest := by
  have hkept : ∀ d ∈ [c], isBlankChar d = false ∧ d ≠ '"' := by simp [hblank, hquote]
  exact withoutBlanks_append hkept rest

theorem digitChar_ne_of_lt : ∀ d < 16, Nat.digitChar d ≠ '"' ∧ Nat.digitChar d ≠ '\\' := by
  decide

/-- An escaped character is kept inside a text, and the scan stays in the text. -/
theorem withoutBlanks_escape (c : Char) (rest : List Char) :
    withoutBlanks .inText (escape c ++ rest) = escape c ++ withoutBlanks .inText rest := by
  unfold escape
  split
  case h_8 hquote hslash _ _ _ _ _ =>
    split
    · rename_i hcontrol
      obtain ⟨hfirst, hfirst'⟩ := digitChar_ne_of_lt (c.toNat / 16) (by omega)
      obtain ⟨hlast, hlast'⟩ := digitChar_ne_of_lt (c.toNat % 16) (by omega)
      simp [withoutBlanks, Standing.next, hfirst, hfirst', hlast, hlast']
    · have hnext : Standing.inText.next c = .inText := by
        rw [Standing.next, if_neg hquote, if_neg hslash]
      simp [withoutBlanks, hnext]
  all_goals simp [withoutBlanks, Standing.next]

theorem withoutBlanks_flatMap_escape (text rest : List Char) :
    withoutBlanks .inText (text.flatMap escape ++ '"' :: rest) =
      text.flatMap escape ++ '"' :: withoutBlanks .outside rest := by
  induction text with
  | nil => simp [withoutBlanks, Standing.next]
  | cons c cs ih =>
      simp only [List.flatMap_cons, List.append_assoc]
      rw [withoutBlanks_escape, ih]

/-- A quoted text is kept as it is. -/
theorem withoutBlanks_quote (s : String) (rest : List Char) :
    withoutBlanks .outside (quote s ++ rest) = quote s ++ withoutBlanks .outside rest := by
  have hquote : isBlankChar '"' = false := by decide
  rw [quote_append, quote_append, ← withoutBlanks_flatMap_escape]
  simp [withoutBlanks, Standing.next, hquote]

theorem withoutBlanks_signed {cs : List Char} (hcs : Number.Signed cs) (rest : List Char) :
    withoutBlanks .outside (cs ++ rest) = cs ++ withoutBlanks .outside rest := by
  refine withoutBlanks_append (fun c hc => ?_) rest
  obtain ⟨hblank, -, -, hquote⟩ := numberChar_ne (hcs.mem hc)
  exact ⟨hblank, hquote⟩

/-- Of what stands before an item or a member only the comma is kept. -/
theorem Lead.withoutBlanks_append {first : Bool} {lead : List Char} (hlead : Lead first lead)
    (rest : List Char) :
    withoutBlanks .outside (lead ++ rest) =
      (if first then [] else [',']) ++ withoutBlanks .outside rest := by
  cases hlead with
  | first hws => exact hws.withoutBlanks_append rest
  | next hbefore hafter =>
      rw [List.append_assoc, hbefore.withoutBlanks_append, List.cons_append,
        withoutBlanks_cons (by decide) (by decide), hafter.withoutBlanks_append]
      rfl

/-! ## Values -/

mutual

/-- Of a written value the compact form is kept. -/
theorem Spells.withoutBlanks_append {j : Json} {cs : List Char} (h : Spells j cs)
    (rest : List Char) :
    withoutBlanks .outside (cs ++ rest) = compactChars j ++ withoutBlanks .outside rest := by
  cases h with
  | null => exact Json.withoutBlanks_append (by simp [isBlankChar]) rest
  | trueWord => exact Json.withoutBlanks_append (by simp [isBlankChar]) rest
  | falseWord => exact Json.withoutBlanks_append (by simp [isBlankChar]) rest
  | int n => exact withoutBlanks_signed (signed_toString_int n) rest
  | float hfinite =>
      rw [compactChars, scalar, if_pos hfinite]
      exact withoutBlanks_signed (Number.signed_renderBits _) rest
  | string s => exact withoutBlanks_quote s rest
  | array hitems =>
      rw [List.cons_append, withoutBlanks_cons (by decide) (by decide), hitems.withoutBlanks_append]
      rfl
  | object hmembers =>
      rw [List.cons_append, withoutBlanks_cons (by decide) (by decide),
        hmembers.withoutBlanks_append]
      rfl

/-- Of the written items of an array the compact items are kept. -/
theorem SpellsItems.withoutBlanks_append {first : Bool} {items : List Json} {cs : List Char}
    (h : SpellsItems first items cs) (rest : List Char) :
    withoutBlanks .outside (cs ++ rest) =
      (if first then compactItems items else compactMoreItems items) ++
        withoutBlanks .outside rest := by
  cases h with
  | close hws =>
      rw [List.append_assoc, hws.withoutBlanks_append, List.singleton_append,
        withoutBlanks_cons (by decide) (by decide)]
      cases first <;> rfl
  | item hlead hx hmore =>
      simp only [List.append_assoc]
      rw [hlead.withoutBlanks_append, hx.withoutBlanks_append, hmore.withoutBlanks_append]
      cases first <;> simp [compactItems, compactMoreItems]

/-- Of the written members of an object the compact members are kept. -/
theorem SpellsMembers.withoutBlanks_append {first : Bool} {members : List (String × Json)}
    {cs : List Char} (h : SpellsMembers first members cs) (rest : List Char) :
    withoutBlanks .outside (cs ++ rest) =
      (if first then compactMembers members else compactMoreMembers members) ++
        withoutBlanks .outside rest := by
  cases h with
  | close hws =>
      rw [List.append_assoc, hws.withoutBlanks_append, List.singleton_append,
        withoutBlanks_cons (by decide) (by decide)]
      cases first <;> rfl
  | member hlead hbefore hafter hx hmore =>
      simp only [List.append_assoc, List.cons_append]
      rw [hlead.withoutBlanks_append, withoutBlanks_quote, hbefore.withoutBlanks_append,
        withoutBlanks_cons (by decide) (by decide), hafter.withoutBlanks_append,
        hx.withoutBlanks_append, hmore.withoutBlanks_append]
      cases first <;> simp [compactMembers, compactMoreMembers]

end

/-- What is left of a spelling without its blanks is the compact form. -/
theorem Spells.withoutBlanks_eq {j : Json} {cs : List Char} (h : Spells j cs) :
    withoutBlanks .outside cs = compactChars j := by
  have happend := h.withoutBlanks_append []
  rwa [List.append_nil, withoutBlanks, List.append_nil] at happend

/-- A text without the blanks outside of the texts that it quotes. -/
def unspaced (text : String) : String :=
  String.ofList (withoutBlanks .outside text.toList)

/-- Without its blanks, the indented form is the compact form. -/
theorem Proper.unspaced_pretty {j : Json} (h : Proper j) : unspaced j.pretty = j.compact := by
  rw [unspaced, pretty, String.toList_ofList, (h.spells_prettyChars 0).withoutBlanks_eq, compact]

/-- An escaped quote does not end a text, so that the blank after it stays. -/
example : unspaced "[ \"a\\\" b\" , 1 ]" = "[\"a\\\" b\",1]" := by decide

end QueryCanvas.Json
