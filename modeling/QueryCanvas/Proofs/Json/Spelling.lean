import Mathlib.Data.List.Basic
import QueryCanvas.Json.Lexical
import QueryCanvas.Json.Writer

/-!
# Spellings

A value can be written with blanks between any two of its pieces. `Spells` relates it to all texts
that differ from its compact form by such blanks. Both written forms are spellings of the values
whose numbers are finite (`Proper.spells_compactChars`, `Proper.spells_prettyChars`), so what holds
of every spelling holds of both.
-/

namespace QueryCanvas.Json

/-- There are only blanks. -/
def Blank (cs : List Char) : Prop :=
  ∀ c ∈ cs, isBlankChar c = true

/-- What stands before an item or a member: blanks, with a comma among them unless it is the
first. -/
inductive Lead : Bool → List Char → Prop where
  | first {ws} : Blank ws → Lead true ws
  | next {before after} : Blank before → Blank after → Lead false (before ++ ',' :: after)

mutual

/-- The characters write the value. There are no blanks before and after them. -/
inductive Spells : Json → List Char → Prop where
  | null : Spells .null ['n', 'u', 'l', 'l']
  | trueWord : Spells (.bool true) ['t', 'r', 'u', 'e']
  | falseWord : Spells (.bool false) ['f', 'a', 'l', 's', 'e']
  | int (n : Int) : Spells (.int n) (toString n).toList
  | float {bits : UInt64} :
      Number.isFinite bits = true → Spells (.float bits) (Number.renderBits bits)
  | string (s : String) : Spells (.string s) (quote s)
  | array {items cs} : SpellsItems true items cs → Spells (.array items) ('[' :: cs)
  | object {members cs} : SpellsMembers true members cs → Spells (.object members) ('{' :: cs)

/-- The characters write the items of an array up to its closing bracket. The first part says
whether they are all of its items. -/
inductive SpellsItems : Bool → List Json → List Char → Prop where
  | close {first ws} : Blank ws → SpellsItems first [] (ws ++ [']'])
  | item {first lead x cs xs more} :
      Lead first lead → Spells x cs → SpellsItems false xs more →
      SpellsItems first (x :: xs) (lead ++ (cs ++ more))

/-- The characters write the members of an object up to its closing brace. -/
inductive SpellsMembers : Bool → List (String × Json) → List Char → Prop where
  | close {first ws} : Blank ws → SpellsMembers first [] (ws ++ ['}'])
  | member {first lead name before after x cs members more} :
      Lead first lead → Blank before → Blank after → Spells x cs →
      SpellsMembers false members more →
      SpellsMembers first ((name, x) :: members)
        (lead ++ (quote name ++ (before ++ ':' :: (after ++ (cs ++ more)))))

end

/-- Every binary64 number in the value is finite. -/
inductive Proper : Json → Prop where
  | null : Proper .null
  | bool (b : Bool) : Proper (.bool b)
  | int (n : Int) : Proper (.int n)
  | float {bits : UInt64} : Number.isFinite bits = true → Proper (.float bits)
  | string (s : String) : Proper (.string s)
  | array {items} : (∀ x ∈ items, Proper x) → Proper (.array items)
  | object {members} : (∀ m ∈ members, Proper m.2) → Proper (.object members)

/-! ## Blanks -/

theorem Blank.nil : Blank [] := by
  intro c hc
  cases hc

theorem blank_space : Blank [' '] := by
  intro c hc
  rw [List.mem_singleton.mp hc]
  rfl

theorem blank_newLine (level : Nat) : Blank (newLine level) := by
  intro c hc
  rw [newLine, List.mem_cons] at hc
  rcases hc with rfl | hc
  · rfl
  · rw [(List.mem_replicate.mp hc).2]
    rfl

/-- Blanks are skipped up to the first other character. -/
theorem Blank.skipBlanks_append {ws cs : List Char} (hws : Blank ws) {c : Char}
    (hc : isBlankChar c = false) : skipBlanks (ws ++ c :: cs) = c :: cs := by
  rw [skipBlanks, List.dropWhile_append_of_pos hws, List.dropWhile_cons_of_neg]
  simp [hc]

/-! ## The compact form -/

theorem spellsItems_compactMoreItems {items : List Json}
    (hitems : ∀ x ∈ items, Spells x (compactChars x)) :
    SpellsItems false items (compactMoreItems items) := by
  induction items with
  | nil => exact .close .nil
  | cons x xs ih =>
      have hmore := ih fun y hy => hitems y (List.mem_cons_of_mem x hy)
      exact .item (.next .nil .nil) (hitems x List.mem_cons_self) hmore

theorem spellsMembers_compactMoreMembers {members : List (String × Json)}
    (hmembers : ∀ m ∈ members, Spells m.2 (compactChars m.2)) :
    SpellsMembers false members (compactMoreMembers members) := by
  induction members with
  | nil => exact .close .nil
  | cons m ms ih =>
      have hmore := ih fun n hn => hmembers n (List.mem_cons_of_mem m hn)
      exact .member (.next .nil .nil) .nil .nil (hmembers m List.mem_cons_self) hmore

/-- The compact form writes the value. -/
theorem Proper.spells_compactChars {j : Json} (h : Proper j) : Spells j (compactChars j) := by
  induction h with
  | null => exact .null
  | bool b =>
      cases b with
      | true => exact .trueWord
      | false => exact .falseWord
  | int n => exact .int n
  | float hfinite =>
      rw [compactChars, scalar, if_pos hfinite]
      exact .float hfinite
  | string s => exact .string s
  | @array items _ ih =>
      cases items with
      | nil => exact .array (.close .nil)
      | cons x xs =>
          have hmore := spellsItems_compactMoreItems fun y hy => ih y (List.mem_cons_of_mem x hy)
          exact .array (.item (.first .nil) (ih x List.mem_cons_self) hmore)
  | @object members _ ih =>
      cases members with
      | nil => exact .object (.close .nil)
      | cons m ms =>
          have hmore :=
            spellsMembers_compactMoreMembers fun n hn => ih n (List.mem_cons_of_mem m hn)
          exact .object (.member (.first .nil) .nil .nil (ih m List.mem_cons_self) hmore)

/-! ## The indented form -/

theorem spellsItems_prettyMoreItems {items : List Json} (level : Nat)
    (hitems : ∀ x ∈ items, Spells x (prettyChars (level + 1) x)) :
    SpellsItems false items (prettyMoreItems level items) := by
  induction items with
  | nil => exact .close (blank_newLine level)
  | cons x xs ih =>
      have hmore := ih fun y hy => hitems y (List.mem_cons_of_mem x hy)
      exact .item (.next .nil (blank_newLine (level + 1))) (hitems x List.mem_cons_self) hmore

theorem spellsMembers_prettyMoreMembers {members : List (String × Json)} (level : Nat)
    (hmembers : ∀ m ∈ members, Spells m.2 (prettyChars (level + 1) m.2)) :
    SpellsMembers false members (prettyMoreMembers level members) := by
  induction members with
  | nil => exact .close (blank_newLine level)
  | cons m ms ih =>
      have hmore := ih fun n hn => hmembers n (List.mem_cons_of_mem m hn)
      exact .member (.next .nil (blank_newLine (level + 1))) .nil blank_space
        (hmembers m List.mem_cons_self) hmore

/-- The indented form writes the value, at any level. -/
theorem Proper.spells_prettyChars {j : Json} (h : Proper j) (level : Nat) :
    Spells j (prettyChars level j) := by
  induction h generalizing level with
  | null => exact .null
  | bool b =>
      cases b with
      | true => exact .trueWord
      | false => exact .falseWord
  | int n => exact .int n
  | float hfinite =>
      rw [prettyChars, scalar, if_pos hfinite]
      exact .float hfinite
  | string s => exact .string s
  | @array items _ ih =>
      cases items with
      | nil => exact .array (.close .nil)
      | cons x xs =>
          have hmore := spellsItems_prettyMoreItems level
            fun y hy => ih y (List.mem_cons_of_mem x hy) (level + 1)
          exact .array
            (.item (.first (blank_newLine (level + 1))) (ih x List.mem_cons_self (level + 1)) hmore)
  | @object members _ ih =>
      cases members with
      | nil => exact .object (.close .nil)
      | cons m ms =>
          have hmore := spellsMembers_prettyMoreMembers level
            fun n hn => ih n (List.mem_cons_of_mem m hn) (level + 1)
          exact .object (.member (.first (blank_newLine (level + 1))) .nil blank_space
            (ih m List.mem_cons_self (level + 1)) hmore)

end QueryCanvas.Json
