import QueryCanvas.Proofs.Canvas.Handles
import QueryCanvas.Proofs.Number.Decimal
import QueryCanvas.Proofs.Text.Pattern

/-!
# The forms of handles

A handle is spelled by digits, its field and its side with dashes between them (`Handle.Spells`).
The reader of handles accepts these spellings and nothing else, as does the pattern of handles
(`Handle.match?`), which is matched by trial and knows the digits of all scripts:
`Handle.reads_spellings`. Only the spelling without a superfluous zero is the written form. Where
there are several spellings the two readers part: `Handle.readers_agree` says that the reader that
knows the node finds the field of the written form only.
-/

namespace QueryCanvas

namespace Handle

/-- The text is digits that stand for the node, the field and the side, with dashes between them;
the field is not empty and is written on one line. -/
structure Spells (h : Handle) (digits text : String) : Prop where
  text_eq : text = digits ++ "-" ++ h.field ++ "-" ++ h.side.name
  digits_ne : digits ≠ ""
  isDigit : ∀ c ∈ digits.toList, c.isDigit = true
  node_eq : Nat.ofDigitChars 10 digits.toList 0 = h.node.toNat
  field_ne : h.field ≠ ""
  oneLine : '\n' ∉ h.field.toList

variable {h first second : Handle} {digits more text : String}

/-- The characters of a spelling. -/
theorem Spells.toList_eq (hspells : h.Spells digits text) :
    text.toList = digits.toList ++ '-' :: (h.field.toList ++ h.side.tail) := by
  rw [hspells.text_eq]
  simp [HandleSide.tail]

/-- Characters of this form are a spelling. -/
theorem spells_ofList {digits : List Char}
    (htext : text.toList = digits ++ '-' :: (h.field.toList ++ h.side.tail)) (hne : digits ≠ [])
    (hdigits : ∀ c ∈ digits, c.isDigit = true)
    (hnode : Nat.ofDigitChars 10 digits 0 = h.node.toNat) (hfield : h.field ≠ "")
    (hline : '\n' ∉ h.field.toList) : h.Spells (String.ofList digits) text where
  text_eq := by
    rw [← String.toList_inj, htext]
    simp [HandleSide.tail]
  digits_ne := by simpa using hne
  isDigit := by simpa using hdigits
  node_eq := by simpa using hnode
  field_ne := hfield
  oneLine := hline

/-- A handle is read from its spellings only. -/
theorem parse?_iff_spells : parse? text = some h ↔ ∃ digits, h.Spells digits text := by
  rw [parse?_eq_some_iff]
  constructor
  · rintro ⟨digits, htext, hne, hdigits, hnumber, hfield, hline⟩
    rw [digitsNumber_eq_ofDigitChars] at hnumber
    exact ⟨_, spells_ofList htext hne hdigits hnumber hfield hline⟩
  · rintro ⟨digits, hspells⟩
    refine ⟨digits.toList, hspells.toList_eq, by simpa using hspells.digits_ne, hspells.isDigit, ?_,
      hspells.field_ne, hspells.oneLine⟩
    rw [digitsNumber_eq_ofDigitChars]
    exact hspells.node_eq

/-- A text spells one handle at most, with the same digits each time. -/
theorem Spells.unique (hfirst : first.Spells digits text) (hsecond : second.Spells more text) :
    digits = more ∧ first = second := by
  obtain ⟨hdigits, hfield, hside⟩ := handleParts_unique rfl hfirst.isDigit hsecond.isDigit
    (hfirst.toList_eq.symm.trans hsecond.toList_eq)
  refine ⟨String.toList_inj.mp hdigits, eq_of_parts ?_ hfield hside⟩
  rw [← hfirst.node_eq, hdigits, hsecond.node_eq]

/-- A spelling is the written form exactly if its digits are the written node. -/
theorem Spells.encode_eq_iff (hspells : h.Spells digits text) :
    h.encode = text ↔ ¬ Padded digits.toList := by
  have hne : digits.toList ≠ [] := by simpa using hspells.digits_ne
  rw [← toDigits_ofDigitChars_iff hne hspells.isDigit, hspells.node_eq, ← toList_nodeText,
    ← String.toList_inj, toList_encode, hspells.toList_eq, List.append_left_inj]

end Handle

/-! ## The pattern of handles -/

/-- Digits, a dash, a field on one line, a dash and the name of a side. -/
def handlePattern (digit : Char → Bool) : List Text.Piece :=
  [.many digit, .oneOf [['-']], .many (· != '\n'), .oneOf [['-']],
    .oneOf [HandleSide.source.name.toList, HandleSide.target.name.toList]]

/-- Read a number of 64 bits: decimal digits, with a plus sign in front or not. -/
def number64? (cs : List Char) : Option UInt64 :=
  let digits := if cs.head? = some '+' then cs.tail else cs
  if digits ≠ [] ∧ digits.all Char.isDigit ∧ Nat.ofDigitChars 10 digits 0 < UInt64.size then
    some (Nat.ofDigitChars 10 digits 0).toUInt64
  else none

/-- Read a handle from the parts that the pattern of handles finds. The digits that it finds may be
of any script, but only decimal digits make a number. -/
def Handle.match? (digit : Char → Bool) (text : String) : Option Handle :=
  match Text.matchParts? (handlePattern digit) text.toList with
  | some [digits, _, field, _, side] =>
      (number64? digits).map fun node =>
        ⟨node, String.ofList field,
          if side = HandleSide.source.name.toList then .source else .target⟩
  | _ => none

variable {digit : Char → Bool} {cs : List Char} {parts : List (List Char)}

/-- The parts that fit the pattern of handles. -/
theorem fits_handlePattern_iff :
    Text.Fits (handlePattern digit) cs parts ↔
      ∃ digits field, ∃ side : HandleSide,
        parts = [digits, ['-'], field, ['-'], side.name.toList] ∧
        cs = digits ++ '-' :: (field ++ side.tail) ∧ digits ≠ [] ∧
        (∀ c ∈ digits, digit c = true) ∧ field ≠ [] ∧ '\n' ∉ field := by
  constructor
  · rintro ⟨htakes, rfl⟩
    simp only [handlePattern, List.forall₂_cons_left_iff, List.forall₂_nil_left_iff,
      Text.Piece.Takes, List.mem_singleton, List.mem_pair, bne_iff_ne] at htakes
    obtain ⟨digits, _, ⟨hdigits, hall⟩, ⟨_, _, rfl, ⟨field, _, ⟨hfield, hline⟩,
      ⟨_, _, rfl, ⟨name, _, hname, rfl, rfl⟩, rfl⟩, rfl⟩, rfl⟩, rfl⟩ := htakes
    have hside : ∃ side : HandleSide, name = side.name.toList := by
      rcases hname with rfl | rfl
      · exact ⟨.source, rfl⟩
      · exact ⟨.target, rfl⟩
    obtain ⟨side, rfl⟩ := hside
    exact ⟨digits, field, side, rfl, by simp [HandleSide.tail], hdigits, hall, hfield,
      fun hmem => hline _ hmem rfl⟩
  · rintro ⟨digits, field, side, rfl, rfl, hdigits, hall, hfield, hline⟩
    refine ⟨?_, by simp [HandleSide.tail]⟩
    have hone : ∀ c ∈ field, (c != '\n') = true := by
      intro c hc
      rw [bne_iff_ne]
      rintro rfl
      exact hline hc
    have hside : side.name.toList ∈
        [HandleSide.source.name.toList, HandleSide.target.name.toList] := by
      cases side <;> simp
    exact .cons ⟨hdigits, hall⟩ (.cons List.mem_cons_self (.cons ⟨hfield, hone⟩
      (.cons List.mem_cons_self (.cons hside .nil))))

theorem number64?_eq_some_iff {digits : List Char} {node : UInt64} (hplus : '+' ∉ digits) :
    number64? digits = some node ↔
      digits ≠ [] ∧ (∀ c ∈ digits, c.isDigit = true) ∧
        Nat.ofDigitChars 10 digits 0 = node.toNat := by
  have hhead : digits.head? ≠ some '+' := by
    intro hhead
    exact hplus (List.mem_of_head? hhead)
  simp only [number64?, if_neg hhead, List.all_eq_true]
  constructor
  · intro hread
    obtain ⟨⟨hne, hdigits, hlt⟩, hnode⟩ := Option.ite_none_right_eq_some.mp hread
    cases hnode
    exact ⟨hne, hdigits, (UInt64.toNat_ofNat_of_lt' hlt).symm⟩
  · rintro ⟨hne, hdigits, hnode⟩
    rw [hnode, if_pos ⟨hne, hdigits, node.toNat_lt⟩]
    simp

namespace Handle

variable {h : Handle} {text : String}

/-- A text does not fit the pattern of handles in two ways. -/
theorem fits_handlePattern_unique {first second : List (List Char)} (hdash : digit '-' = false)
    (hfirst : Text.Fits (handlePattern digit) cs first)
    (hsecond : Text.Fits (handlePattern digit) cs second) : first = second := by
  obtain ⟨digits, field, side, rfl, hcs, -, hdigits, -⟩ := fits_handlePattern_iff.mp hfirst
  obtain ⟨more, other, last, rfl, hsame, -, hmore, -⟩ := fits_handlePattern_iff.mp hsecond
  obtain ⟨rfl, rfl, rfl⟩ := handleParts_unique hdash hdigits hmore (hcs.symm.trans hsame)
  rfl

/-- The name of a side tells the side. -/
theorem side_of_name (side : HandleSide) :
    (if side.name.toList = HandleSide.source.name.toList then HandleSide.source else .target) =
      side := by
  cases side <;> rfl

/-- The pattern of handles finds the spellings and nothing else. -/
theorem match?_iff_spells (hascii : ∀ c : Char, c.toNat < 128 → digit c = c.isDigit) :
    match? digit text = some h ↔ ∃ digits, h.Spells digits text := by
  have hfound : ∀ parts, Text.matchParts? (handlePattern digit) text.toList = some parts ↔
      Text.Fits (handlePattern digit) text.toList parts := by
    intro parts
    refine Text.matchParts?_eq_some_iff ?_
    intro first second
    exact fits_handlePattern_unique (hascii '-' (by decide))
  have hplus : ∀ digits : List Char, (∀ c ∈ digits, digit c = true) → '+' ∉ digits := by
    intro digits hdigits hmem
    have hsign := hascii '+' (by decide)
    rw [hdigits '+' hmem] at hsign
    exact absurd hsign (by decide)
  constructor
  · intro hmatch
    unfold match? at hmatch
    split at hmatch
    · rename_i digits _ field _ name hparts
      obtain ⟨node, hnode, rfl⟩ := Option.map_eq_some_iff.mp hmatch
      obtain ⟨_, _, side, heq, htext, -, hdigits, hfield, hline⟩ :=
        fits_handlePattern_iff.mp ((hfound _).mp hparts)
      cases heq
      obtain ⟨hne, hdecimal, hnumber⟩ := (number64?_eq_some_iff (hplus digits hdigits)).mp hnode
      rw [side_of_name]
      exact ⟨_, spells_ofList (by simpa using htext) hne hdecimal hnumber (by simpa using hfield)
        (by simpa using hline)⟩
    · cases hmatch
  · rintro ⟨digits, hspells⟩
    have hne : digits.toList ≠ [] := by simpa using hspells.digits_ne
    have hdigits : ∀ c ∈ digits.toList, digit c = true := by
      intro c hc
      have hdecimal := hspells.isDigit c hc
      have hrange := toNat_of_isDigit hdecimal
      rw [hascii c (by omega), hdecimal]
    have hparts : Text.matchParts? (handlePattern digit) text.toList =
        some [digits.toList, ['-'], h.field.toList, ['-'], h.side.name.toList] :=
      (hfound _).mpr (fits_handlePattern_iff.mpr ⟨_, _, _, rfl, hspells.toList_eq, hne, hdigits,
        by simpa using hspells.field_ne, hspells.oneLine⟩)
    have hnumber : number64? digits.toList = some h.node :=
      (number64?_eq_some_iff (hplus _ hdigits)).mpr ⟨hne, hspells.isDigit, hspells.node_eq⟩
    simp only [match?, hparts, hnumber, Option.map_some, String.ofList_toList, side_of_name]

/-- The reader of handles accepts exactly the spellings, each of which spells one handle with one
numeral, and so does the pattern of handles for any set of digits that has no ASCII characters but
the decimal digits. A spelling is the written form exactly if its numeral is not padded; the written
form is always read back. -/
theorem reads_spellings (digit : Char → Bool)
    (hascii : ∀ c : Char, c.toNat < 128 → digit c = c.isDigit) (text : String) :
    parse? text = match? digit text ∧
      (∀ h : Handle, parse? text = some h ↔ ∃ digits, h.Spells digits text) ∧
      (∀ (first second : Handle) (digits more : String), first.Spells digits text →
        second.Spells more text → digits = more ∧ first = second) ∧
      (∀ (h : Handle) (digits : String), h.Spells digits text →
        (h.encode = text ↔ ¬ Padded digits.toList)) ∧
      ∀ h : Handle, h.field ≠ "" → '\n' ∉ h.field.toList → parse? h.encode = some h := by
  refine ⟨?_, fun h => parse?_iff_spells, fun _ _ _ _ hfirst hsecond => hfirst.unique hsecond,
    fun _ _ hspells => hspells.encode_eq_iff, ?_⟩
  · refine Option.ext ?_
    intro h
    rw [parse?_iff_spells, match?_iff_spells hascii]
  · intro h hfield hline
    rw [parse?_encode, if_pos ⟨hfield, hline⟩]

/-- The decimal digits and those of the Devanagari script. -/
def isDevanagariDigit (c : Char) : Bool :=
  c.isDigit || (0x966 ≤ c.toNat && c.toNat ≤ 0x96F)

/-- A padded numeral before a field that looks like the rest of a handle, and a numeral of another
script, which the pattern finds although it is no number. -/
theorem reads_spellings_padded :
    let h : Handle := ⟨12, "1-id-source", .target⟩
    let text := "012-1-id-source-target"
    (∀ c : Char, c.toNat < 128 → isDevanagariDigit c = c.isDigit) ∧ h.Spells "012" text ∧
      parse? text = some h ∧ match? isDevanagariDigit text = some h ∧ h.encode ≠ text ∧
      parse? h.encode = some h ∧ parse? "३-id-source" = none ∧
      Text.matchParts? (handlePattern isDevanagariDigit) "३-id-source".toList =
        some [['३'], ['-'], ['i', 'd'], ['-'], "source".toList] := by
  intro h text
  have hascii : ∀ c : Char, c.toNat < 128 → isDevanagariDigit c = c.isDigit := by
    intro c hc
    have hlow : ¬ 0x966 ≤ c.toNat := by omega
    simp [isDevanagariDigit, hlow]
  have hspells : h.Spells "012" text := by
    constructor
    case isDigit => simp
    all_goals decide +kernel
  obtain ⟨hsame, hread, -, hwritten, hback⟩ := reads_spellings isDevanagariDigit hascii text
  have hparse : parse? text = some h := (hread h).mpr ⟨"012", hspells⟩
  refine ⟨hascii, hspells, hparse, hsame ▸ hparse, ?_, hback h (by decide) (by decide),
    by decide +kernel, by decide +kernel⟩
  intro hcanonical
  exact (hwritten h "012" hspells).mp hcanonical ⟨['1', '2'], by decide, by decide⟩

/-! ## The two readers -/

/-- A node and a field are found in no text but one, and a text has no others. -/
theorem fieldOf?_unique {node other : NodeId} {field last : String}
    (hfield : fieldOf? node text = some field) (hlast : fieldOf? other text = some last) :
    node = other ∧ field = last := by
  obtain ⟨-, side, hwritten⟩ := fieldOf?_eq_some_iff.mp hfield
  obtain ⟨-, otherSide, hsame⟩ := fieldOf?_eq_some_iff.mp hlast
  have hhandle := encode_injective (hwritten.symm.trans hsame)
  cases hhandle
  exact ⟨rfl, rfl⟩

/-- Where a handle is read, the reader that knows its node finds its field in the written form and
nothing in another spelling. -/
theorem fieldOf?_of_parse? (hparse : parse? text = some h) :
    fieldOf? h.node text = if h.encode = text then some h.field else none := by
  split
  · rename_i hcanonical
    rw [← hcanonical]
    exact fieldOf?_encode (field_ne_of_parse? hparse)
  · rename_i hother
    rw [Option.eq_none_iff_forall_ne_some]
    intro field hfield
    obtain ⟨-, side, rfl⟩ := fieldOf?_eq_some_iff.mp hfield
    -- A written form is read as the handle that it is written from.
    rw [parse?_encode, Option.ite_none_right_eq_some, Option.some.injEq] at hparse
    exact hother (congrArg encode hparse.2.symm)

/-- The reader that knows the node finds a field exactly in the written forms of that node and
field, so that no text has a field for two nodes, nor two fields. It agrees with the other reader on
written forms, and finds nothing in the other texts that this one reads. -/
theorem readers_agree :
    (∀ (node : NodeId) (text field : String), fieldOf? node text = some field ↔
        field ≠ "" ∧ ∃ side, text = encode ⟨node, field, side⟩) ∧
      (∀ (text : String) (node other : NodeId) (field last : String),
        fieldOf? node text = some field → fieldOf? other text = some last →
        node = other ∧ field = last) ∧
      ∀ (text : String) (h : Handle), parse? text = some h →
        fieldOf? h.node text = if h.encode = text then some h.field else none :=
  ⟨fun _ _ _ => fieldOf?_eq_some_iff, fun _ _ _ _ _ => fieldOf?_unique,
    fun _ _ => fieldOf?_of_parse?⟩

/-- The node of a text is not found by a part of its numeral, and a field is not found behind a
padded one. -/
theorem readers_agree_numerals :
    fieldOf? 12 "12-1-id-source-target" = some "1-id-source" ∧
      fieldOf? 1 "12-1-id-source-target" = none ∧
      parse? "012-1-id-source-target" = some ⟨12, "1-id-source", .target⟩ ∧
      fieldOf? 12 "012-1-id-source-target" = none := by
  obtain ⟨hfinds, hunique, hagree⟩ := readers_agree
  have hfield : fieldOf? 12 "12-1-id-source-target" = some "1-id-source" :=
    (hfinds _ _ _).mpr ⟨by decide, .target, by decide +kernel⟩
  have hparse : parse? "012-1-id-source-target" = some ⟨12, "1-id-source", .target⟩ := by
    decide +kernel
  refine ⟨hfield, ?_, hparse, ?_⟩
  · rw [Option.eq_none_iff_forall_ne_some]
    intro field hother
    obtain ⟨hnode, -⟩ := hunique _ _ _ _ _ hfield hother
    exact absurd hnode (by decide)
  · rw [hagree _ _ hparse, if_neg (by decide +kernel)]

end Handle

end QueryCanvas
