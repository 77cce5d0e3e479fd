import QueryCanvas.Proofs.Text.Lowercase
import QueryCanvas.Table.FieldType

/-!
# The classification of columns

The type of a column is derived from its lowered name and database type. `classify` derives it from
the two texts as they are given, with no more of lowercasing than the case of ASCII letters. All
patterns that are looked for are steady, so `ofColumn_eq_classify` finds the two derivations equal
on texts in any script.
-/

namespace QueryCanvas.FieldType

/-- The patterns that decide about the type of a column. -/
def patterns : List String :=
  ["email", "date", "timestamp", "bool", "int", "decimal", "numeric", "real", "double"]

theorem steady_patterns : ∀ pattern ∈ patterns, Text.Steady pattern.toList := by
  decide

/-- The type of a column by the patterns that occur in its name and database type as they are
given. The first pattern in this order decides. -/
def classify (column dbType : String) : FieldType :=
  if Text.Occurs "email" column then .email
  else if Text.Occurs "date" dbType ∨ Text.Occurs "timestamp" dbType then .date
  else if Text.Occurs "bool" dbType then .boolean
  else if ∃ part ∈ ["int", "decimal", "numeric", "real", "double"], Text.Occurs part dbType then
    .number
  else .text

/-- The pattern of a type is found in the lowered text exactly if it occurs in the text. -/
theorem contains_lowercase_iff_occurs {pattern : String} (hpattern : pattern ∈ patterns)
    (text : String) :
    Text.contains (Text.lowercase text) pattern = true ↔ Text.Occurs pattern text :=
  Text.contains_lowercase_iff (steady_patterns pattern hpattern) text

/-- A part of numeric database types is found in the lowered one exactly if one occurs. -/
theorem any_numericParts_iff (dbType : String) :
    numericParts.any (Text.contains (Text.lowercase dbType)) = true ↔
      ∃ part ∈ ["int", "decimal", "numeric", "real", "double"], Text.Occurs part dbType := by
  rw [List.any_eq_true]
  refine exists_congr fun part => and_congr_right fun hpart => ?_
  refine contains_lowercase_iff_occurs ?_ dbType
  have hlater : numericParts ⊆ patterns := by decide
  exact hlater hpart

/-- The type of a column is that of its name and database type as they are given, up to the case of
ASCII letters. Lowering neither makes nor breaks a match of any of the patterns, in any text. -/
theorem ofColumn_eq_classify (column dbType : String) :
    ofColumn column dbType = classify column dbType ∧
    ∀ pattern ∈ patterns, ∀ text,
      Text.contains (Text.lowercase text) pattern = true ↔ Text.Occurs pattern text := by
  refine ⟨?_, fun pattern hpattern => contains_lowercase_iff_occurs hpattern⟩
  have hemail : "email" ∈ patterns := by decide
  have hdate : "date" ∈ patterns := by decide
  have htimestamp : "timestamp" ∈ patterns := by decide
  have hbool : "bool" ∈ patterns := by decide
  simp only [ofColumn, classify, Bool.or_eq_true, contains_lowercase_iff_occurs hemail,
    contains_lowercase_iff_occurs hdate, contains_lowercase_iff_occurs htimestamp,
    contains_lowercase_iff_occurs hbool, any_numericParts_iff]

/-- The dotted capital I has no match, though it is lowered to an `i` and more. The sigma before it
takes its final form, and the match behind it is found. -/
theorem ofColumn_eq_classify_dotted :
    "int" ∈ patterns ∧
      ¬ Text.Occurs "int" "ΑΣ İNT" ∧
      (Text.contains (Text.lowercase "ΑΣ İNT") "int" = true ↔ Text.Occurs "int" "ΑΣ İNT") ∧
      (Text.contains (Text.lowercase "ΑΣ İNT8 BİGINT") "int" = true ↔
        Text.Occurs "int" "ΑΣ İNT8 BİGINT") ∧
      ofColumn "E\u212AMAIL" "ΑΣ İNT8 BİGINT" = .number := by
  have hint : "int" ∈ patterns := by decide
  obtain ⟨htype, hsame⟩ := ofColumn_eq_classify "E\u212AMAIL" "ΑΣ İNT8 BİGINT"
  exact ⟨hint, by decide, hsame "int" hint "ΑΣ İNT", hsame "int" hint "ΑΣ İNT8 BİGINT",
    htype.trans (by decide)⟩

end QueryCanvas.FieldType
