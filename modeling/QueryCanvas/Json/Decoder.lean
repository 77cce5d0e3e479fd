import QueryCanvas.Json.Numeral
import QueryCanvas.Json.Skip
import QueryCanvas.Json.Value
import QueryCanvas.OrderedMap

/-!
# Typed readers

A `Decoder` reads one type in two ways: from a text in one pass, where the first problem in reading
order decides, and from a JSON value. Both ways of a record share one table of slots: the name, the
decoder and the default of each field. At most `depthLimit` containers may be open at a time in what
is read; what is skipped may be nested without limit.
-/

namespace QueryCanvas.Json

/-- The number of containers that may be open at a time. -/
def depthLimit : Nat := 127

/-- A reader of one type. From a text it is given how many containers may still be opened. -/
structure Decoder (α : Type) where
  ofText : Nat → List Char → Except ReadError (α × List Char)
  ofJson : Json → Except Problem α

/-- A value as messages name it. -/
def found : Json → Found
  | .null => .null
  | .bool b => .bool b
  | .int n => .int n
  | .float bits => .float bits
  | .string s => .string s
  | .array _ => .sequence
  | .object _ => .map

/-- The error for a text that goes on with something else than what is wanted: the value that
stands there is named if it is well formed. -/
def unexpected (wanted : String) (cs : List Char) : ReadError :=
  let mistaken (f : Found) : ReadError := .unfit (.wrongType f wanted)
  let literal (word : List Char) (f : Found) (rest : List Char) : ReadError :=
    match readWord word rest with
    | .ok _ => mistaken f
    | .error e => e
  match skipBlanks cs with
  | [] => .unfinished
  | 'n' :: rest => literal ['u', 'l', 'l'] .null rest
  | 't' :: rest => literal ['r', 'u', 'e'] (.bool true) rest
  | 'f' :: rest => literal ['a', 'l', 's', 'e'] (.bool false) rest
  | '"' :: rest =>
      match readString rest with
      | .ok (s, _) => mistaken (.string s)
      | .error e => e
  | '[' :: _ => mistaken .sequence
  | '{' :: _ => mistaken .map
  | c :: rest =>
      if c = '-' ∨ c.isDigit then
        match readNumeral (c :: rest) with
        | .ok (n, _) => mistaken n.found
        | .error e => e
      else .malformed

namespace Decoder

variable {α β : Type}

/-- Read with `d` and change what was read. -/
def map (f : α → β) (d : Decoder α) : Decoder β where
  ofText depth cs := (d.ofText depth cs).map fun (x, rest) => (f x, rest)
  ofJson j := (d.ofJson j).map f

/-- Read with `d` and refuse some of what was read. -/
def refine (f : α → Except Problem β) (d : Decoder α) : Decoder β where
  ofText depth cs :=
    match d.ofText depth cs with
    | .error e => .error e
    | .ok (x, rest) =>
        match f x with
        | .ok y => .ok (y, rest)
        | .error problem => .error (.unfit problem)
  ofJson j :=
    match d.ofJson j with
    | .error problem => .error problem
    | .ok x => f x

/-- A text. -/
def string : Decoder String where
  ofText _ cs :=
    match skipBlanks cs with
    | '"' :: rest => readString rest
    | cs => .error (unexpected "a string" cs)
  ofJson
    | .string s => .ok s
    | j => .error (.wrongType j.found "a string")

/-- A truth value. -/
def bool : Decoder Bool where
  ofText _ cs :=
    match skipBlanks cs with
    | 't' :: rest => (readWord ['r', 'u', 'e'] rest).map (true, ·)
    | 'f' :: rest => (readWord ['a', 'l', 's', 'e'] rest).map (false, ·)
    | cs => .error (unexpected "a boolean" cs)
  ofJson
    | .bool b => .ok b
    | j => .error (.wrongType j.found "a boolean")

/-- A whole number as a 32-bit one. -/
def toInt32 (n : Int) : Except Problem Int32 :=
  if Int32.minValue.toInt ≤ n ∧ n ≤ Int32.maxValue.toInt then .ok (Int32.ofInt n)
  else .error (.outOfRange n "i32")

/-- A whole number of 32 bits. -/
def int32 : Decoder Int32 where
  ofText _ cs :=
    match skipBlanks cs with
    | [] => .error .unfinished
    | c :: rest =>
        if c = '-' ∨ c.isDigit then
          match readNumeral (c :: rest) with
          | .error e => .error e
          | .ok (.real bits, _) => .error (.unfit (.wrongType (.float bits) "i32"))
          | .ok (.whole n, rest) =>
              match toInt32 n with
              | .ok m => .ok (m, rest)
              | .error problem => .error (.unfit problem)
        else .error (unexpected "i32" (c :: rest))
  ofJson
    | .int n => toInt32 n
    | j => .error (.wrongType j.found "i32")

/-- Nothing for a null, and otherwise what `d` reads. -/
def nullable (d : Decoder α) : Decoder (Option α) where
  ofText depth cs :=
    match skipBlanks cs with
    | 'n' :: rest => (readWord ['u', 'l', 'l'] rest).map (none, ·)
    | cs => (d.ofText depth cs).map fun (x, rest) => (some x, rest)
  ofJson
    | .null => .ok none
    | j => (d.ofJson j).map some

/-- The items of an array up to its closing bracket. The fuel bounds their number. -/
def readItems (item : List Char → Reading α) : Nat → Bool → List Char → Reading (List α)
  | 0, _, _ => .error .unfinished
  | fuel + 1, first, cs =>
      match nextItem first cs with
      | .error e => .error e
      | .ok none => (closeArray cs).map ([], ·)
      | .ok (some cs) =>
          match item cs with
          | .error e => .error e
          | .ok (x, rest) =>
              (readItems item fuel false rest).map fun (xs, rest) => (x :: xs, rest)

/-- Open a container: fail if too many are open, and otherwise read on with one less. -/
def enter (depth : Nat) (read : Nat → Except ReadError α) : Except ReadError α :=
  match depth with
  | 0 => .error .malformed
  | depth + 1 => read depth

/-- The items of an array, each read with `d`. -/
def list (d : Decoder α) : Decoder (List α) where
  ofText depth cs :=
    match skipBlanks cs with
    | '[' :: rest =>
        enter depth fun depth => readItems (d.ofText depth) (rest.length + 1) true rest
    | cs => .error (unexpected "a sequence" cs)
  ofJson
    | .array items => items.mapM d.ofJson
    | j => .error (.wrongType j.found "a sequence")

/-- The members of an object up to its closing brace, entered one by one into what was gathered
before. The fuel bounds their number. -/
def readMembers {σ : Type} (member : σ → String → List Char → Reading σ) :
    Nat → Bool → σ → List Char → Reading σ
  | 0, _, _, _ => .error .unfinished
  | fuel + 1, first, gathered, cs =>
      match nextName first cs with
      | .error e => .error e
      | .ok none => .ok (gathered, cs)
      | .ok (some (name, cs)) =>
          match member gathered name cs with
          | .error e => .error e
          | .ok (gathered, rest) => readMembers member fuel false gathered rest

/-- The members of an object in document order, each value read with `d`. A name that comes again
keeps its place and takes the new value. -/
def dictionary (d : Decoder α) : Decoder (OrderedMap String α) where
  ofText depth cs :=
    match skipBlanks cs with
    | '{' :: rest =>
        enter depth fun depth => do
          let member (m : OrderedMap String α) (name : String) (cs : List Char) :
              Except ReadError (OrderedMap String α × List Char) := do
            let cs ← readColon cs
            (d.ofText depth cs).map fun (x, rest) => (m.insert name x, rest)
          let (m, rest) ← readMembers member (rest.length + 1) true OrderedMap.empty rest
          (closeObject rest).map (m, ·)
    | cs => .error (unexpected "a map" cs)
  ofJson
    | .object members => do
        let entries ← members.mapM fun (name, j) => (d.ofJson j).map (name, ·)
        return OrderedMap.ofList entries
    | j => .error (.wrongType j.found "a map")

/-- Enter a member into members sorted by name; the last value of a name counts. -/
def insertSorted (name : String) (value : Json) : List (String × Json) → List (String × Json)
  | [] => [(name, value)]
  | (k, v) :: rest =>
      if name = k then (k, value) :: rest
      else if name < k then (name, value) :: (k, v) :: rest
      else (k, v) :: insertSorted name value rest

/-- Read any value. The members of objects come out sorted by name. -/
def readAny : Nat → List Char → Except ReadError (Json × List Char)
  | depth, cs =>
      match skipBlanks cs with
      | [] => .error .unfinished
      | 'n' :: rest => (readWord ['u', 'l', 'l'] rest).map (.null, ·)
      | 't' :: rest => (readWord ['r', 'u', 'e'] rest).map (.bool true, ·)
      | 'f' :: rest => (readWord ['a', 'l', 's', 'e'] rest).map (.bool false, ·)
      | '"' :: rest => (readString rest).map fun (s, rest) => (.string s, rest)
      | '[' :: rest =>
          match depth with
          | 0 => .error .malformed
          | depth + 1 =>
              (readItems (readAny depth) (rest.length + 1) true rest).map fun (xs, rest) =>
                (.array xs, rest)
      | '{' :: rest =>
          match depth with
          | 0 => .error .malformed
          | depth + 1 => do
              let member (ms : List (String × Json)) (name : String) (cs : List Char) :
                  Except ReadError (List (String × Json) × List Char) := do
                let cs ← readColon cs
                (readAny depth cs).map fun (x, rest) => (insertSorted name x ms, rest)
              let (ms, rest) ← readMembers member (rest.length + 1) true [] rest
              (closeObject rest).map (.object ms, ·)
      | c :: rest =>
          if c = '-' ∨ c.isDigit then
            (readNumeral (c :: rest)).map fun (n, rest) =>
              match n with
              | .whole n => (.int n, rest)
              | .real bits => (.float bits, rest)
          else .error .malformed

/-- Any value. -/
def any : Decoder Json where
  ofText := readAny
  ofJson := .ok

end Decoder

/-! ## Records -/

/-- A field of a record: its name, its decoder, and the value it takes when it is absent. -/
structure Slot where
  name : String
  Value : Type
  decoder : Decoder Value
  default? : Option Value

/-- A field that has to be present. -/
def Slot.required {α : Type} (name : String) (decoder : Decoder α) : Slot :=
  ⟨name, α, decoder, none⟩

/-- A field with a value for its absence. -/
def Slot.withDefault {α : Type} (name : String) (decoder : Decoder α) (value : α) : Slot :=
  ⟨name, α, decoder, some value⟩

/-- One value for each slot. -/
def Filled : List Slot → Type
  | [] => Unit
  | slot :: slots => slot.Value × Filled slots

/-- The values read so far. -/
def Partial : List Slot → Type
  | [] => Unit
  | slot :: slots => Option slot.Value × Partial slots

namespace Partial

/-- No value was read yet. -/
def start : (slots : List Slot) → Partial slots
  | [] => ()
  | _ :: slots => (none, start slots)

/-- Whether the slot of that name has a value, nothing if there is no such slot. -/
def taken? : {slots : List Slot} → Partial slots → String → Option Bool
  | [], _, _ => none
  | slot :: slots, p, name =>
      if slot.name = name then some p.1.isSome
      else @taken? slots p.2 name

/-- Give the slot of that name the value that `read` finds with the slot's decoder. -/
def fill {ε σ : Type} (read : {α : Type} → Decoder α → Except ε (α × σ)) :
    {slots : List Slot} → Partial slots → String → Option (Except ε (Partial slots × σ))
  | [], _, _ => none
  | slot :: slots, p, name =>
      if slot.name = name then
        some ((read slot.decoder).map fun (x, s) => ((some x, p.2), s))
      else
        (@fill _ _ read slots p.2 name).map fun r => r.map fun (q, s) => ((p.1, q), s)

/-- All values, the defaults where nothing was read. The first required slot without a value is
missing. -/
def finish : {slots : List Slot} → Partial slots → Except Problem (Filled slots)
  | [], _ => .ok ()
  | slot :: slots, p =>
      match p.1, slot.default? with
      | some x, _ => (@finish slots p.2).map fun rest => (x, rest)
      | none, some x => (@finish slots p.2).map fun rest => (x, rest)
      | none, none => .error (.missingField slot.name)

end Partial

/-- What a record reader wants when the items are too few. -/
def recordWanted (label : String) (count : Nat) : String :=
  label ++ " with " ++ toString count ++ (if count = 1 then " element" else " elements")

/-- One member of a record in a text, after its name. -/
def readMember {slots : List Slot} (depth : Nat) (p : Partial slots) (name : String)
    (cs : List Char) : Except ReadError (Partial slots × List Char) :=
  match p.taken? name with
  | some true => .error (.unfit (.duplicateField name))
  | _ => do
      let cs ← readColon cs
      match p.fill (fun d => d.ofText depth cs) name with
      | some r => r
      | none => (skipValue cs).map (p, ·)

/-- The items of a record written as an array, slot by slot. `index` counts the items before. -/
def readPositional (wanted : String) (depth : Nat) :
    (slots : List Slot) → Nat → List Char → Reading (Filled slots)
  | [], _, cs => .ok ((), cs)
  | slot :: slots, index, cs =>
      match nextItem (index = 0) cs with
      | .error e => .error e
      | .ok (some cs) =>
          match slot.decoder.ofText depth cs with
          | .error e => .error e
          | .ok (x, rest) =>
              (readPositional wanted depth slots (index + 1) rest).map fun (xs, rest) =>
                ((x, xs), rest)
      | .ok none =>
          match slot.default? with
          | none => .error (.unfit (.wrongLength index wanted))
          | some x =>
              (readPositional wanted depth slots (index + 1) cs).map fun (xs, rest) =>
                ((x, xs), rest)

/-- One member of a record in a value; a name without a slot is passed over. -/
def takeMember {slots : List Slot} (p : Partial slots) (name : String) (j : Json) :
    Except Problem (Partial slots) :=
  match p.taken? name with
  | none => .ok p
  | some true => .error (.duplicateField name)
  | some false =>
      match p.fill (fun d => (d.ofJson j).map (·, ())) name with
      | none => .ok p
      | some r => r.map Prod.fst

/-- The items of a record given as an array value, with those that are left over. -/
def takePositional (wanted : String) :
    (slots : List Slot) → Nat → List Json → Except Problem (Filled slots × List Json)
  | [], _, items => .ok ((), items)
  | slot :: slots, index, j :: items =>
      match slot.decoder.ofJson j with
      | .error problem => .error problem
      | .ok x =>
          (takePositional wanted slots (index + 1) items).map fun (xs, left) => ((x, xs), left)
  | slot :: slots, index, [] =>
      match slot.default? with
      | none => .error (.wrongLength index wanted)
      | some x =>
          (takePositional wanted slots (index + 1) []).map fun (xs, left) => ((x, xs), left)

namespace Decoder

/-- A record, from an object or from an array of its fields in order. -/
def record (label : String) (slots : List Slot) : Decoder (Filled slots) where
  ofText depth cs :=
    match skipBlanks cs with
    | '{' :: rest =>
        enter depth fun depth => do
          let (p, rest) ←
            readMembers (readMember depth) (rest.length + 1) true (Partial.start slots) rest
          match p.finish with
          | .error problem => .error (.unfit problem)
          | .ok filled => (closeObject rest).map (filled, ·)
    | '[' :: rest =>
        enter depth fun depth => do
          let wanted := recordWanted label slots.length
          let (filled, rest) ← readPositional wanted depth slots 0 rest
          (closeArray rest).map (filled, ·)
    | cs => .error (unexpected label cs)
  ofJson
    | .object members => do
        let p ← members.foldlM (fun p (name, j) => takeMember p name j) (Partial.start slots)
        p.finish
    | .array items => do
        let (filled, left) ← takePositional (recordWanted label slots.length) slots 0 items
        if left.isEmpty then .ok filled
        else .error (.wrongLength items.length "fewer elements in array")
    | j => .error (.wrongType j.found label)

/-! ## Choices -/

/-- The choice of a name. -/
def choose {γ : Type} (options : List (String × γ)) (name : String) : Except Problem γ :=
  match options.lookup name with
  | some x => .ok x
  | none => .error (.unknownVariant name (options.map Prod.fst))

/-- A null, of which nothing is kept. -/
def readNull (cs : List Char) : Except ReadError (List Char) :=
  match skipBlanks cs with
  | 'n' :: rest => readWord ['u', 'l', 'l'] rest
  | cs => .error (unexpected "unit" cs)

/-- The name of a variant, which must be a string. -/
def readVariant {γ : Type} (options : List (String × γ)) (cs : List Char) : Reading γ :=
  match skipBlanks cs with
  | [] => .error .unfinished
  | '"' :: rest =>
      match readString rest with
      | .error e => .error e
      | .ok (name, rest) =>
          match choose options name with
          | .ok x => .ok (x, rest)
          | .error problem => .error (.unfit problem)
  | _ => .error .malformed

/-- One of several names: the name itself, or an object with that name alone and a null. -/
def oneOf (options : List (String × α)) : Decoder α where
  ofText depth cs :=
    match skipBlanks cs with
    | [] => .error .unfinished
    | '"' :: rest => readVariant options ('"' :: rest)
    | '{' :: rest =>
        enter depth fun _ => do
          let (x, rest) ← readVariant options rest
          let rest ← readColon rest
          let rest ← readNull rest
          (closeObject rest).map (x, ·)
    | _ => .error .malformed
  ofJson
    | .string name => choose options name
    | .object [(name, j)] => do
        let x ← choose options name
        if j = .null then .ok x else .error (.wrongType j.found "unit")
    | .object _ => .error .severalKeys
    | j => .error (.wrongType j.found "string or map")

/-- One of several records: an object with the record's name alone and the record. -/
def tagged (options : List (String × Decoder α)) : Decoder α where
  ofText depth cs :=
    match skipBlanks cs with
    | [] => .error .unfinished
    | '"' :: rest => do
        let _ ← readVariant options ('"' :: rest)
        .error (.unfit (.wrongType .bareVariant "struct variant"))
    | '{' :: rest =>
        enter depth fun depth => do
          let (d, rest) ← readVariant options rest
          let rest ← readColon rest
          let (x, rest) ← d.ofText depth rest
          (closeObject rest).map (x, ·)
    | _ => .error .malformed
  ofJson
    | .string name => do
        let _ ← choose options name
        .error (.wrongType .bareVariant "struct variant")
    | .object [(name, j)] => do
        let d ← choose options name
        d.ofJson j
    | .object _ => .error .severalKeys
    | j => .error (.wrongType j.found "string or map")

/-- Read a whole text. Nothing but blanks may follow the value. -/
def read (d : Decoder α) (text : String) : Except ReadError α :=
  match d.ofText depthLimit text.toList with
  | .error e => .error e
  | .ok (x, rest) => if (skipBlanks rest).isEmpty then .ok x else .error .malformed

end Decoder

end QueryCanvas.Json
