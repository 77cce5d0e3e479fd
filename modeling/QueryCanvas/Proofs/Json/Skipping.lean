import QueryCanvas.Json.Skip
import QueryCanvas.Proofs.Json.Pieces

/-!
# Skipping written values

Whatever is written where a value is passed over, the skipper stops right after it
(`skipValue_append`). It keeps the open containers on a stack, so the statement behind it is about
every stack: after a value the skipper goes on inside the innermost container, or is done when none
is open (`resume`).
-/

namespace QueryCanvas.Json

/-- What the skipper does after a value inside the open containers. -/
def resume (stack : List Bracket) (rest : List Char) : Except ReadError (List Char) :=
  if stack.isEmpty then .ok rest else skipFrom .after stack rest

/-- The skipper moves on as it does after a value. -/
theorem skipFrom_endValue {place : Place} {stack below : List Bracket} {c : Char}
    {rest : List Char} (h : skipMove place stack c rest = endValue below) :
    skipFrom place stack (c :: rest) = resume below rest := by
  rw [skipFrom, h, endValue, resume]
  cases below.isEmpty <;> rfl

theorem skipFrom_go {place next : Place} {stack below : List Bracket} {c : Char}
    {rest : List Char} (h : skipMove place stack c rest = .go next below) :
    skipFrom place stack (c :: rest) = skipFrom next below rest := by
  rw [skipFrom, h]

/-- Blanks may stand here, inside the open containers. -/
def Place.allowsBlanks (stack : List Bracket) : Place → Bool
  | .value | .itemOrEnd | .nameOrEnd | .name | .colon => true
  | .after => !stack.isEmpty
  | _ => false

theorem skipMove_blank {place : Place} {stack : List Bracket}
    (hplace : place.allowsBlanks stack = true) {c : Char} (hc : isBlankChar c = true)
    (rest : List Char) : skipMove place stack c rest = .go place stack := by
  cases place with
  | after =>
      cases stack with
      | nil => cases hplace
      | cons top below => simp [skipMove, afterValue, hc]
  | value | itemOrEnd | nameOrEnd | name | colon => simp [skipMove, hc]
  | _ => cases hplace

/-- Blanks are passed over where they may stand. -/
theorem Blank.skipFrom_append {ws : List Char} (hws : Blank ws) {place : Place}
    {stack : List Bracket} (hplace : place.allowsBlanks stack = true) (rest : List Char) :
    skipFrom place stack (ws ++ rest) = skipFrom place stack rest := by
  induction ws with
  | nil => rfl
  | cons c ws ih =>
      have hmove := skipMove_blank hplace (hws c List.mem_cons_self) (ws ++ rest)
      rw [List.cons_append, skipFrom_go hmove]
      exact ih fun d hd => hws d (List.mem_cons_of_mem c hd)

/-! ## Pieces -/

/-- An escaped character is passed over inside a text. -/
theorem skipFrom_escape (isName : Bool) (stack : List Bracket) (c : Char) (rest : List Char) :
    skipFrom (.text isName) stack (escape c ++ rest) = skipFrom (.text isName) stack rest := by
  unfold escape
  split
  case h_8 hquote hslash _ _ _ _ _ =>
    split
    · rename_i hcontrol
      have hhex := hexNumber?_control c.toNat hcontrol
      simp [skipFrom, skipMove, readHex, hhex]
    · rename_i hcontrol
      have hmove : skipMove (.text isName) stack c rest = .go (.text isName) stack := by
        rw [skipMove, if_neg hquote, if_neg hslash, if_neg hcontrol]
      exact skipFrom_go hmove
  all_goals simp [skipFrom, skipMove, shortEscape?]

/-- The rest of a text is passed over. -/
theorem skipFrom_text (isName : Bool) (stack : List Bracket) (text rest : List Char) :
    skipFrom (.text isName) stack (text.flatMap escape ++ '"' :: rest) =
      if isName then skipFrom .colon stack rest else resume stack rest := by
  induction text with
  | nil =>
      cases isName with
      | true => exact skipFrom_go rfl
      | false => exact skipFrom_endValue rfl
  | cons c cs ih => rw [List.flatMap_cons, List.append_assoc, skipFrom_escape, ih]

/-- The rest of a literal is passed over. -/
theorem skipFrom_word {letters : List Char} (hletters : letters ≠ []) (stack : List Bracket)
    (rest : List Char) :
    skipFrom (.word letters) stack (letters ++ rest) = resume stack rest := by
  induction letters with
  | nil => exact absurd rfl hletters
  | cons c cs ih =>
      rw [List.cons_append]
      cases cs with
      | nil => exact skipFrom_endValue (by simp [skipMove])
      | cons d ds =>
          have hmove : skipMove (.word (c :: d :: ds)) stack c (d :: ds ++ rest) =
              .go (.word (d :: ds)) stack := by simp [skipMove]
          rw [skipFrom_go hmove]
          exact ih (List.cons_ne_nil d ds)

/-! ## Numbers -/

open Number (Digits Signed)

/-- A number may go on with a point or an exponent here, or end. -/
def Place.AfterDigits (place : Place) : Prop :=
  place = .zero ∨ place = .digits ∨ place = .fraction

variable {place : Place} {digits rest : List Char}

/-- A number ends where nothing carries it on. -/
theorem skipFrom_ends (hplace : place.AfterDigits ∨ place = .exponentDigits)
    (stack : List Bracket) (hrest : Ends rest) :
    skipFrom place stack rest = resume stack rest := by
  cases rest with
  | nil =>
      rw [resume, skipFrom, skipFrom]
      rcases hplace with (rfl | rfl | rfl) | rfl <;> cases stack <;> rfl
  | cons c cs =>
      obtain ⟨hdigit, hpoint, hlower, hupper⟩ := hrest
      have hmove : skipMove place stack c cs = afterValue stack c := by
        rcases hplace with (rfl | rfl | rfl) | rfl <;>
          simp [skipMove, continueNumber, Place.endsNumber, hdigit, hpoint, hlower, hupper]
      rw [resume, skipFrom, skipFrom, hmove]
      cases stack <;> rfl

/-- Further digits are passed over. -/
theorem skipFrom_digits
    (hplace : place = .digits ∨ place = .fraction ∨ place = .exponentDigits)
    (stack : List Bracket) (hdigits : ∀ c ∈ digits, c.isDigit = true) (rest : List Char) :
    skipFrom place stack (digits ++ rest) = skipFrom place stack rest := by
  induction digits with
  | nil => rfl
  | cons c cs ih =>
      have hc := hdigits c List.mem_cons_self
      have hmove : skipMove place stack c (cs ++ rest) = .go place stack := by
        rcases hplace with rfl | rfl | rfl <;> simp [skipMove, continueNumber, hc]
      rw [List.cons_append, skipFrom_go hmove]
      exact ih fun d hd => hdigits d (List.mem_cons_of_mem c hd)

/-- Digits are passed over after a point and after the sign of an exponent. -/
theorem skipFrom_needed {next : Place}
    (hplace : place = .point ∧ next = .fraction ∨ place = .exponentSign ∧ next = .exponentDigits)
    (stack : List Bracket) (hdigits : Digits digits) (rest : List Char) :
    skipFrom place stack (digits ++ rest) = skipFrom next stack rest := by
  obtain ⟨c, cs, rfl⟩ := List.exists_cons_of_ne_nil hdigits.1
  have hc := hdigits.2 c List.mem_cons_self
  have hmove : skipMove place stack c (cs ++ rest) = .go next stack := by
    rcases hplace with ⟨rfl, rfl⟩ | ⟨rfl, rfl⟩ <;> simp [skipMove, continueNumber, hc]
  rw [List.cons_append, skipFrom_go hmove]
  refine skipFrom_digits ?_ stack (fun d hd => hdigits.2 d (List.mem_cons_of_mem c hd)) rest
  rcases hplace with ⟨-, rfl⟩ | ⟨-, rfl⟩
  · exact .inr (.inl rfl)
  · exact .inr (.inr rfl)

/-- A digit other than zero starts a number. -/
theorem startValue_of_isDigit {c : Char} (hc : c.isDigit = true) (hzero : c ≠ '0') :
    startValue c = some (.digits, none) := by
  unfold startValue
  split
  case h_9 => rw [if_pos hc]
  all_goals first | exact absurd rfl hzero | cases hc

/-- The digits of a number before its point are passed over. -/
theorem skipFrom_whole (hplace : place = .value ∨ place = .minus) (hdigits : Digits digits)
    (hplain : ¬ Padded digits) :
    ∃ next : Place, (next = .zero ∨ next = .digits) ∧
      ∀ stack rest, skipFrom place stack (digits ++ rest) = skipFrom next stack rest := by
  obtain ⟨c, cs, rfl⟩ := List.exists_cons_of_ne_nil hdigits.1
  have hc := hdigits.2 c List.mem_cons_self
  by_cases hzero : c = '0'
  · -- After a zero there is no other digit.
    subst hzero
    have hnil : cs = [] := by
      by_contra hmore
      exact hplain ⟨cs, rfl, hmore⟩
    refine ⟨.zero, .inl rfl, fun stack rest => ?_⟩
    have hmove : skipMove place stack '0' rest = .go .zero stack := by
      rcases hplace with rfl | rfl <;> rfl
    rw [hnil, List.singleton_append, skipFrom_go hmove]
  · refine ⟨.digits, .inr rfl, fun stack rest => ?_⟩
    have hmove : skipMove place stack c (cs ++ rest) = .go .digits stack := by
      have hblank := (numberChar_ne (.inl hc)).1
      rcases hplace with rfl | rfl
      · simp [skipMove, hblank, startValue_of_isDigit hc hzero]
      · simp [skipMove, continueNumber, hzero, hc]
    rw [List.cons_append, skipFrom_go hmove]
    exact skipFrom_digits (.inl rfl) stack
      (fun d hd => hdigits.2 d (List.mem_cons_of_mem c hd)) rest

/-- The point of a number is passed over with the digits after it. -/
theorem skipFrom_fraction (hplace : place = .zero ∨ place = .digits) {fraction : List Char}
    (hfraction : Number.Fraction fraction) :
    ∃ next : Place, next.AfterDigits ∧
      ∀ stack rest, skipFrom place stack (fraction ++ rest) = skipFrom next stack rest := by
  cases hfraction with
  | none => exact ⟨place, hplace.imp_right .inl, fun _ _ => rfl⟩
  | digits hdigits =>
      refine ⟨.fraction, .inr (.inr rfl), fun stack rest => ?_⟩
      have hmove : ∀ cs, skipMove place stack '.' cs = .go .point stack := by
        intro cs
        rcases hplace with rfl | rfl <;> rfl
      rw [List.cons_append, skipFrom_go (hmove _)]
      exact skipFrom_needed (.inl ⟨rfl, rfl⟩) stack hdigits rest

/-- The exponent of a number is passed over to its end. -/
theorem skipFrom_exponent (hplace : place.AfterDigits) {exponent : List Char}
    (hexponent : Number.Exponent exponent) (stack : List Bracket) (hrest : Ends rest) :
    skipFrom place stack (exponent ++ rest) = resume stack rest := by
  cases hexponent with
  | none => exact skipFrom_ends (.inl hplace) stack hrest
  | @digits sign cs hsign hdigits =>
      have hletter : ∀ cs, skipMove place stack 'e' cs = .go .exponent stack := by
        intro cs
        rcases hplace with rfl | rfl | rfl <;> rfl
      have hmove : ∀ cs, skipMove .exponent stack sign cs = .go .exponentSign stack := by
        intro cs
        rcases hsign with rfl | rfl <;> rfl
      rw [List.cons_append, List.cons_append, skipFrom_go (hletter _), skipFrom_go (hmove _),
        skipFrom_needed (.inr ⟨rfl, rfl⟩) stack hdigits]
      exact skipFrom_ends (.inr rfl) stack hrest

theorem skipFrom_numeral (hplace : place = .value ∨ place = .minus) {cs : List Char}
    (h : Number.Numeral cs) (stack : List Bracket) (hrest : Ends rest) :
    skipFrom place stack (cs ++ rest) = resume stack rest := by
  cases h with
  | parts hwhole hplain hfraction hexponent =>
      obtain ⟨atPoint, hpoint, htoPoint⟩ := skipFrom_whole hplace hwhole hplain
      obtain ⟨atLetter, hletter, htoLetter⟩ := skipFrom_fraction hpoint hfraction
      rw [List.append_assoc, List.append_assoc, htoPoint, htoLetter]
      exact skipFrom_exponent hletter hexponent stack hrest

/-- A written number is passed over. -/
theorem skipFrom_signed {cs : List Char} (h : Signed cs) (stack : List Bracket)
    (hrest : Ends rest) : skipFrom .value stack (cs ++ rest) = resume stack rest := by
  cases h with
  | plain hbody => exact skipFrom_numeral (.inl rfl) hbody stack hrest
  | minus hbody =>
      rw [List.cons_append, skipFrom_go rfl]
      exact skipFrom_numeral (.inr rfl) hbody stack hrest

/-! ## Values -/

/-- The skipper comes to an item after what stands before it. -/
theorem Lead.skipFrom_item {first : Bool} {lead : List Char} (hlead : Lead first lead)
    (stack : List Bracket) {x : Json} {cs : List Char} (hx : Spells x cs) (rest : List Char) :
    skipFrom (if first then .itemOrEnd else .after) (.array :: stack) (lead ++ (cs ++ rest)) =
      skipFrom .value (.array :: stack) (cs ++ rest) := by
  cases hlead with
  | first hws =>
      obtain ⟨c, tail, rfl, hblank, hclose, -⟩ := hx.exists_eq_cons
      rw [if_pos rfl, hws.skipFrom_append rfl]
      simp only [List.cons_append, skipFrom, skipMove, hblank, hclose, if_false, Bool.false_eq_true]
  | next hbefore hafter =>
      rw [if_neg (by decide), List.append_assoc, hbefore.skipFrom_append rfl, List.cons_append,
        skipFrom_go (by rfl), hafter.skipFrom_append rfl]

/-- The skipper comes to the end of a name after what stands before it. -/
theorem Lead.skipFrom_member {first : Bool} {lead : List Char} (hlead : Lead first lead)
    (stack : List Bracket) (name : String) (rest : List Char) :
    skipFrom (if first then .nameOrEnd else .after) (.object :: stack)
        (lead ++ (quote name ++ rest)) =
      skipFrom .colon (.object :: stack) rest := by
  rw [quote_append]
  cases hlead with
  | first hws =>
      rw [if_pos rfl, hws.skipFrom_append rfl, skipFrom_go (by rfl), skipFrom_text, if_pos rfl]
  | next hbefore hafter =>
      rw [if_neg (by decide), List.append_assoc, hbefore.skipFrom_append rfl, List.cons_append,
        skipFrom_go (by rfl), hafter.skipFrom_append rfl, skipFrom_go (by rfl), skipFrom_text,
        if_pos rfl]

mutual

/-- A written value is passed over inside any open containers. -/
theorem Spells.skipFrom_value {j : Json} {cs : List Char} (h : Spells j cs)
    (stack : List Bracket) {rest : List Char} (hrest : Ends rest) :
    skipFrom .value stack (cs ++ rest) = resume stack rest := by
  cases h with
  | null => exact (skipFrom_go rfl).trans (skipFrom_word (by decide) stack rest)
  | trueWord => exact (skipFrom_go rfl).trans (skipFrom_word (by decide) stack rest)
  | falseWord => exact (skipFrom_go rfl).trans (skipFrom_word (by decide) stack rest)
  | int n => exact skipFrom_signed (signed_toString_int n) stack hrest
  | float _ => exact skipFrom_signed (Number.signed_renderBits _) stack hrest
  | string s =>
      rw [quote_append, skipFrom_go rfl, skipFrom_text]
      rfl
  | array hitems => exact (skipFrom_go rfl).trans (hitems.skipFrom_items stack rest)
  | object hmembers => exact (skipFrom_go rfl).trans (hmembers.skipFrom_members stack rest)

/-- The written items of an array are passed over with its closing bracket. -/
theorem SpellsItems.skipFrom_items {first : Bool} {items : List Json} {cs : List Char}
    (h : SpellsItems first items cs) (stack : List Bracket) (rest : List Char) :
    skipFrom (if first then .itemOrEnd else .after) (.array :: stack) (cs ++ rest) =
      resume stack rest := by
  cases h with
  | close hws =>
      rw [List.append_assoc]
      cases first with
      | true => exact (hws.skipFrom_append rfl _).trans (skipFrom_endValue rfl)
      | false => exact (hws.skipFrom_append rfl _).trans (skipFrom_endValue rfl)
  | item hlead hx hmore =>
      -- The item ends inside of its array, so that the skipper goes on with the later items.
      simp only [List.append_assoc]
      rw [hlead.skipFrom_item stack hx, hx.skipFrom_value _ (hmore.ends rest)]
      exact hmore.skipFrom_items stack rest

/-- The written members of an object are passed over with its closing brace. -/
theorem SpellsMembers.skipFrom_members {first : Bool} {members : List (String × Json)}
    {cs : List Char} (h : SpellsMembers first members cs) (stack : List Bracket)
    (rest : List Char) :
    skipFrom (if first then .nameOrEnd else .after) (.object :: stack) (cs ++ rest) =
      resume stack rest := by
  cases h with
  | close hws =>
      rw [List.append_assoc]
      cases first with
      | true => exact (hws.skipFrom_append rfl _).trans (skipFrom_endValue rfl)
      | false => exact (hws.skipFrom_append rfl _).trans (skipFrom_endValue rfl)
  | member hlead hbefore hafter hx hmore =>
      simp only [List.append_assoc, List.cons_append]
      rw [hlead.skipFrom_member stack, hbefore.skipFrom_append rfl, skipFrom_go rfl,
        hafter.skipFrom_append rfl, hx.skipFrom_value _ (hmore.ends rest)]
      exact hmore.skipFrom_members stack rest

end

/-- A written value is passed over, up to its last character. -/
theorem skipValue_append {j : Json} {ws cs rest : List Char} (hws : Blank ws) (h : Spells j cs)
    (hrest : Ends rest) : skipValue (ws ++ (cs ++ rest)) = .ok rest := by
  rw [skipValue, hws.skipFrom_append rfl, h.skipFrom_value [] hrest]
  rfl

end QueryCanvas.Json
