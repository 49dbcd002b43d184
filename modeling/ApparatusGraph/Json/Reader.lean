/-
# Reading values out of JSON

A reader takes a `Source` to a value or says why not.  A text is refused as not
readable when it is no JSON or when something unreadable would have to be kept;
everything else that can be wrong is a `Defect`.

Defects are reported in the order of the text: a wrong value or a repeated field
where it is met, a missing field at the end of its object.  Fields without a meaning
are skipped.

A `Shape` describes a record: the names of its fields, how each is read and what
stands for a field that is left out.  The same shape reads the record from an object
and from a list of its fields in order of declaration.
-/

import ApparatusGraph.Json.Source
import ApparatusGraph.Json.Printer
import ApparatusGraph.Text.Quoted

namespace ApparatusGraph
namespace Json

/-- What was met where something else was wanted. -/
inductive Found where
  | null
  | bool (b : Bool)
  | number (n : Number)
  | text (s : String)
  | list
  | object

/-- What was met, in words. -/
def Found.describe : Found → String
  | .null => "null"
  | .bool b => s!"boolean `{b}`"
  | .number (.int i _) => s!"integer `{i}`"
  | .number (.float f) => "floating point `" ++ .ofList (FloatStyle.json.write f) ++ "`"
  | .text s => "string " ++ Text.quoted s
  | .list => "sequence"
  | .object => "map"

/-- Why a JSON text does not stand for a value. -/
inductive Defect where
  | wrongType (found : Found) (wanted : String)
  | outOfRange (i : Int) (wanted : String)
  | unknownVariant (name : String) (known : List String)
  | duplicateField (name : String)
  | missingField (name : String)
  | wrongLength (count : Nat) (wanted : String)
  /-- a text whose own format is broken -/
  | refused (reason : String)

/-- A choice of names, each between back quotes. -/
def listNames : List String → String
  | [a] => s!"`{a}`"
  | [a, b] => s!"`{a}` or `{b}`"
  | names => "one of " ++ ", ".intercalate (names.map fun name => s!"`{name}`")

/-- The wording of a defect. -/
def Defect.message : Defect → String
  | .wrongType found wanted => s!"invalid type: {found.describe}, expected {wanted}"
  | .outOfRange i wanted => s!"invalid value: integer `{i}`, expected {wanted}"
  | .unknownVariant name known => s!"unknown variant `{name}`, expected {listNames known}"
  | .duplicateField name => s!"duplicate field `{name}`"
  | .missingField name => s!"missing field `{name}`"
  | .wrongLength count wanted => s!"invalid length {count}, expected {wanted}"
  | .refused reason => reason

/-- Why a text was not read. -/
inductive ReadError where
  /-- no JSON text, or one that cannot be kept -/
  | notReadable
  /-- JSON that stands for no value of the wanted type -/
  | defect (d : Defect)

/-- What a value is read from: a tree, or the reason why there is none. -/
abbrev Result (α : Type) := Except ReadError α

/-- Refuses for a defect. -/
def refuse {α : Type} (d : Defect) : Result α := .error (.defect d)

/-- Refuses a value of another type than the wanted one. -/
def mismatch {α : Type} (wanted : String) : Source → Result α
  | .null => refuse (.wrongType .null wanted)
  | .bool b => refuse (.wrongType (.bool b) wanted)
  | .number n => refuse (.wrongType (.number n) wanted)
  | .text s => refuse (.wrongType (.text s) wanted)
  | .list _ => refuse (.wrongType .list wanted)
  | .object _ => refuse (.wrongType .object wanted)
  | .unreadable => .error .notReadable

/-- A name in an object that is being read. -/
def readable (name : Option String) : Result String :=
  match name with
  | some name => .ok name
  | none => .error .notReadable

/-! ## Single values -/

/-- Reads a string. -/
def readText : Source → Result String
  | .text s => .ok s
  | source => mismatch "a string" source

/-- Reads a flag. -/
def readBool : Source → Result Bool
  | .bool b => .ok b
  | source => mismatch "a boolean" source

/-- Reads null. -/
def readNull (wanted : String) : Source → Result Unit
  | .null => .ok ()
  | source => mismatch wanted source

/-- Reads a whole number between two bounds. -/
def readWhole (low high : Int) (wanted : String) : Source → Result Int
  | .number (.int i _) =>
    if low ≤ i ∧ i ≤ high then .ok i else refuse (.outOfRange i wanted)
  | source => mismatch wanted source

/-- Reads a signed 64-bit integer. -/
def readInt64 (source : Source) : Result Int64 :=
  .ofInt <$> readWhole (-0x8000000000000000) (0x7FFFFFFFFFFFFFFF) "i64" source

/-- Reads an unsigned 64-bit integer. -/
def readUInt64 (source : Source) : Result UInt64 :=
  (fun i => .ofNat i.toNat) <$> readWhole 0 (0xFFFFFFFFFFFFFFFF) "u64" source

/-- Reads a byte. -/
def readByte (source : Source) : Result UInt8 :=
  (fun i => .ofNat i.toNat) <$> readWhole 0 255 "u8" source

/-- Reads a double; a whole number stands for the double nearest to it. -/
def readFloat : Source → Result Float
  | .number (.float f) => .ok f
  | .number (.int i _) => .ok (.ofInt i)
  | source => mismatch "f64" source

/-- Reads structured data. -/
def readData (source : Source) : Result Data :=
  match source.keep? with
  | some json => .ok (.ofJson json)
  | none => .error .notReadable

/-- Reads every item in order. -/
def readItems {α : Type} (item : Source → Result α) : List Source → Result (List α)
  | [] => .ok []
  | source :: rest => do
    let a ← item source
    (a :: ·) <$> readItems item rest

/-- Reads a list. -/
def readList {α : Type} (item : Source → Result α) : Source → Result (List α)
  | .list items => readItems item items
  | source => mismatch "a sequence" source

/-- Reads the members of a map after those already in `m`; a later member replaces an earlier. -/
def readEntries {α : Type} (value : Source → Result α) (m : Named α) :
    List (Option String × Source) → Result (Named α)
  | [] => .ok m
  | (name, source) :: rest => do
    let name ← readable name
    let a ← value source
    readEntries value (m.insert name a) rest

/-- Reads a map. -/
def readMap {α : Type} (value : Source → Result α) : Source → Result (Named α)
  | .object members => readEntries value ∅ members
  | source => mismatch "a map" source

/-- Reads null as an absent value and everything else as a present one. -/
def readOption {α : Type} (value : Source → Result α) : Source → Result (Option α)
  | .null => .ok none
  | source => some <$> value source

/-! ## Records -/

/-- Where a record is read from: the text itself, or a part of it that was kept first. -/
inductive Origin where
  | direct
  | kept
  deriving DecidableEq

/-- How a record is read. -/
structure Shape (α : Type) : Type 1 where
  /-- the fields met so far -/
  Draft : Type
  /-- no field met -/
  blank : Draft
  /-- the number of fields -/
  count : Nat
  /-- the draft with one more member; none when no field has its name -/
  take : String → Source → Draft → Option (Result Draft)
  /-- the record of a draft -/
  finish : Draft → Result α
  /-- the record of the fields in order and what is left over: the position of the first field, and
  the wording of the length that is wanted -/
  spread : Nat → String → List Source → Result (α × List Source)

namespace Shape

variable {α β : Type}

/-- The record with no fields. -/
def pure (a : α) : Shape α where
  Draft := Unit
  blank := ()
  count := 0
  take _ _ _ := none
  finish _ := .ok a
  spread _ _ items := .ok (a, items)

/-- A field read by `value`; `absent` says what stands for it when it is left out. -/
def fieldOr (name : String) (value : Source → Result α) (absent : Defect → Result α) : Shape α where
  Draft := Option α
  blank := none
  count := 1
  take other source draft :=
    if other = name then
      some (if draft.isSome then refuse (.duplicateField name) else some <$> value source)
    else none
  finish
    | some a => .ok a
    | none => absent (.missingField name)
  spread position wanted
    | source :: rest => do
      let a ← value source
      .ok (a, rest)
    | [] => do
      let a ← absent (.wrongLength position wanted)
      .ok (a, [])

/-- A field that may not be left out. -/
def field (name : String) (value : Source → Result α) : Shape α := fieldOr name value refuse

/-- A field with a value for when it is left out. -/
def optional (name : String) (value : Source → Result α) (default : α) : Shape α :=
  fieldOr name value fun _ => .ok default

/-- Two groups of fields, one after the other. -/
def and (f : Shape (α → β)) (x : Shape α) : Shape β where
  Draft := f.Draft × x.Draft
  blank := (f.blank, x.blank)
  count := f.count + x.count
  take name source draft :=
    match f.take name source draft.1 with
    | some result => some ((·, draft.2) <$> result)
    | none => (x.take name source draft.2).map fun result => (draft.1, ·) <$> result
  finish draft := do
    let g ← f.finish draft.1
    g <$> x.finish draft.2
  spread position wanted items := do
    let (g, rest) ← f.spread position wanted items
    let (a, rest) ← x.spread (position + f.count) wanted rest
    .ok (g a, rest)

instance : Pure Shape := ⟨pure⟩

instance : Seq Shape := ⟨fun f x => f.and (x ())⟩

/-- The draft after the members of an object. -/
def takeAll (s : Shape α) (draft : s.Draft) : List (Option String × Source) → Result s.Draft
  | [] => .ok draft
  | (name, source) :: rest => do
    let name ← readable name
    match s.take name source draft with
    | some result =>
      let draft ← result
      s.takeAll draft rest
    | none => s.takeAll draft rest

/-- A number of elements, in words. -/
def elements (n : Nat) : String := if n = 1 then "1 element" else s!"{n} elements"

/-- Reads a record called `title`. -/
def read (s : Shape α) (title : String) (origin : Origin) : Source → Result α
  | .object members => do
    let draft ← s.takeAll s.blank members
    s.finish draft
  | .list items => do
    let (a, rest) ← s.spread 0 s!"struct {title} with {elements s.count}" items
    match rest, origin with
    | [], _ => .ok a
    | _ :: _, .direct => .error .notReadable
    | _ :: _, .kept => refuse (.wrongLength items.length s!"{elements s.count} in sequence")
  | source => mismatch s!"struct {title}" source

end Shape

/-! ## Variants -/

/-- Reads the name of a variant: a string, or an object of that one name with null. -/
def readVariant {τ : Type} (known : List (String × τ)) : Source → Result τ
  | .text name => variant name
  | .object ((name, content) :: rest) => do
    let t ← variant (← readable name)
    readNull "unit" content
    if rest.isEmpty then .ok t else .error .notReadable
  | _ => .error .notReadable
where
  /-- the variant of a name -/
  variant (name : String) : Result τ :=
    match known.lookup name with
    | some t => .ok t
    | none => refuse (.unknownVariant name (known.map (·.1)))

/-- Reads the name of a variant where only a string may stand. -/
def readVariantName {τ : Type} (known : List (String × τ)) : Source → Result τ
  | .text name => readVariant.variant known name
  | source => mismatch "variant identifier" source

/-- The two fields of a variant that is written with its tag and its content side by side. -/
structure Tagged (τ α : Type) where
  /-- what the whole is called -/
  title : String
  /-- the name of the field that holds the tag -/
  tag : String
  /-- the name of the field that holds the content -/
  content : String
  /-- the tags -/
  known : List (String × τ)
  /-- reads the content of a tag -/
  read : Origin → τ → Source → Result α
  /-- the value of a tag without content, if it needs none -/
  bare : τ → Option α

namespace Tagged

variable {τ α : Type}

/-- What is wanted, in words. -/
def wanted (t : Tagged τ α) : String := s!"adjacently tagged enum {t.title}"

/-- The first member that is the tag (`true`) or the content (`false`), and the members after
it. -/
def next (t : Tagged τ α) :
    List (Option String × Source) → Result (Option (Bool × Source × List (Option String × Source)))
  | [] => .ok none
  | (name, source) :: rest => do
    let name ← readable name
    if name = t.tag then .ok (some (true, source, rest))
    else if name = t.content then .ok (some (false, source, rest))
    else t.next rest

/-- Ends the reading: neither field may come again. -/
def ending (t : Tagged τ α) (a : α) (members : List (Option String × Source)) : Result α := do
  match ← t.next members with
  | none => .ok a
  | some (true, _) => refuse (.duplicateField t.tag)
  | some (false, _) => refuse (.duplicateField t.content)

/-- Reads the members of an object: the tag first, or the content first, which is then kept until
the tag is known. -/
def readMembers (t : Tagged τ α) (members : List (Option String × Source)) : Result α := do
  match ← t.next members with
  | none => refuse (.missingField t.tag)
  | some (true, tag, rest) =>
    let tag ← readVariant t.known tag
    match ← t.next rest with
    | none =>
      match t.bare tag with
      | some a => .ok a
      | none => refuse (.missingField t.content)
    | some (true, _) => refuse (.duplicateField t.tag)
    | some (false, content, rest) => t.ending (← t.read .direct tag content) rest
  | some (false, content, rest) =>
    if !content.keepable then .error .notReadable
    else
      match ← t.next rest with
      | none => refuse (.missingField t.tag)
      | some (false, _) => refuse (.duplicateField t.content)
      | some (true, tag, rest) =>
        let tag ← readVariant t.known tag
        t.ending (← t.read .kept tag content) rest

/-- Reads an object with the two fields, or a list of the tag and the content.  In a list only a
string may stand for the tag. -/
def readFrom (t : Tagged τ α) : Source → Result α
  | .object members => t.readMembers members
  | .list [] => refuse (.wrongLength 0 t.wanted)
  | .list [tag] => do
    let _ ← readVariantName t.known tag
    refuse (.wrongLength 1 t.wanted)
  | .list (tag :: content :: rest) => do
    let tag ← readVariantName t.known tag
    let a ← t.read .direct tag content
    if rest.isEmpty then .ok a else .error .notReadable
  | source => mismatch t.wanted source

end Tagged

/-- Reads a JSON text. -/
def readString {α : Type} (read : Source → Result α) (s : String) : Result α :=
  match Source.parse? s with
  | some source => read source
  | none => .error .notReadable

end Json
end ApparatusGraph
