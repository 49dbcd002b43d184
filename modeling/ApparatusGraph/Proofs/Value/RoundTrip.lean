/-
# Values, written and read back

What a run takes and gives back is read back from its text: values, type tags, params, records,
orders, outputs, waypoints and limits.  There are two parts to it.  A
value is read from the tree of its JSON form, whatever it holds (`Value.read_ofJson` and its like);
so no two values share a form.  And the text of the form parses to that tree, unless there is a
double in it or too many containers stand inside one another.
-/

import ApparatusGraph.Limits.Basic
import ApparatusGraph.Order
import ApparatusGraph.Proofs.Json.Values
import ApparatusGraph.Trace.Waypoint

namespace ApparatusGraph

open Json (Plain Source Origin Layout readString readText_ofJson)
open Json.Shape (Only Reads)

/-! ## Trees -/

/-- The members of an object. -/
def Json.members : Json → List (String × Json)
  | .object members => members
  | _ => []

/-- An attachment is read from its JSON form. -/
theorem Attachment.read_ofJson (origin : Origin) (a : Attachment) :
    read origin (.ofJson a.toJson) = .ok a := by
  have hbytes : Json.readList Json.readByte
      (.ofJson (.list (a.bytes.map fun b => .nat b.toNat))) = .ok a.bytes :=
    Json.readList_map Json.readByte_ofJson a.bytes
  have hname := (Reads.pure mk).withField (by simp) (rfl : Only a.toJson.members "name" _)
    (readText_ofJson a.name)
  have hmedia := hname.withField (by simp) (rfl : Only a.toJson.members "media_type" _)
    (readText_ofJson a.mediaType)
  have hall := hmedia.withField (by simp) (rfl : Only a.toJson.members "bytes" _) hbytes
  exact hall.read "Attachment" origin

namespace Value

/-- The kind of a value. -/
def kind : Value → Kind
  | text _ => .text
  | integer _ => .integer
  | float _ => .float
  | bool _ => .bool
  | file _ => .file
  | data _ => .data

/-- The name of the type of a value is known by its kind. -/
theorem lookup_typeName (v : Value) : kinds.lookup v.typeName = some v.kind := by
  cases v <;> rfl

/-- The content of a value is read once its kind is known. -/
theorem readContent_ofJson (origin : Origin) (v : Value) :
    readContent origin v.kind (.ofJson v.contentJson) = .ok v := by
  cases v with
  | text s => rfl
  | integer i => exact congrArg (integer <$> ·) (Json.readInt64_ofJson i)
  | float f => rfl
  | bool b => rfl
  | file a => exact congrArg (file <$> ·) (Attachment.read_ofJson origin a)
  | data d => exact congrArg (data <$> ·) (Json.readData_ofJson d)

/-- **A value is read from the tree of its JSON form,** whatever it holds. -/
theorem read_ofJson (v : Value) : read (.ofJson v.toJson) = .ok v :=
  tagged.readFrom_ofJson (by decide) v.lookup_typeName (v.readContent_ofJson .direct)

end Value

/-- A type tag is read from its JSON form. -/
theorem TypeTag.read_ofJson (t : TypeTag) : read (.ofJson t.toJson) = .ok t := by
  have hname := (Reads.pure mk).withField (by simp) (rfl : Only t.toJson.members "name" _)
    (readText_ofJson t.name)
  have hoptional := hname.withOptional false (by simp) (rfl : Only t.toJson.members "optional" _)
    (Json.readBool_ofJson t.optional)
  have hall := hoptional.withOptional "" (by simp) (rfl : Only t.toJson.members "description" _)
    (readText_ofJson t.description)
  exact hall.read "VirtualType" .direct

/-- A parameter is read from its JSON form. -/
theorem Param.read_ofJson (p : Param) : read (.ofJson p.toJson) = .ok p := by
  have hvalue := (Reads.pure mk).withField (by simp) (rfl : Only p.toJson.members "value" _)
    p.value.read_ofJson
  have hall := hvalue.withField (by simp) (rfl : Only p.toJson.members "vtype" _) p.tag.read_ofJson
  exact hall.read "Param" .direct

/-- A record is read from its JSON form. -/
theorem Record.read_ofJson (r : Record) : read (.ofJson r.toJson) = .ok r :=
  Json.readMap_ofJson Param.read_ofJson (.refl _)

/-- An order is read from its JSON form. -/
theorem Order.read_ofJson (o : Order) : read (.ofJson o.toJson) = .ok o := by
  have hfiles : Json.readList (Attachment.read .direct)
      (.ofJson (.list (o.files.map Attachment.toJson))) = .ok o.files :=
    Json.readList_map (Attachment.read_ofJson .direct) o.files
  have htext := (Reads.pure mk).withField (by simp) (rfl : Only o.toJson.members "text" _)
    (readText_ofJson o.text)
  have hall := htext.withOptional [] (by simp) (rfl : Only o.toJson.members "files" _) hfiles
  exact hall.read "Order" .direct

/-- An output is read from its JSON form. -/
theorem Output.read_ofJson (o : Output) : read (.ofJson o.toJson) = .ok o :=
  Json.readMap_ofJson Value.read_ofJson (.refl _)

/-- A waypoint is read from its JSON form. -/
theorem Waypoint.read_ofJson (w : Waypoint) : read (.ofJson w.toJson) = .ok w := by
  have hapart : tagged.content ≠ tagged.tag := by decide
  cases w with
  | ingress =>
    have hknown : tagged.known.lookup "ingress" = some .ingress := rfl
    exact tagged.readFrom_ofJson_bare hknown rfl
  | process name =>
    have hknown : tagged.known.lookup "process" = some .process := rfl
    exact tagged.readFrom_ofJson hapart hknown rfl
  | switch name =>
    have hknown : tagged.known.lookup "switch" = some .switch := rfl
    exact tagged.readFrom_ofJson hapart hknown rfl
  | egress name =>
    have hknown : tagged.known.lookup "egress" = some .egress := rfl
    exact tagged.readFrom_ofJson hapart hknown rfl

/-- Limits are read from their JSON form. -/
theorem Limits.read_ofJson (l : Limits) : read (.ofJson l.toJson) = .ok l := by
  have htimeout : Json.readOption Json.readUInt64 (.ofJson (.option .uint64 l.timeoutMs)) =
      .ok l.timeoutMs := Json.readOption_ofJson Json.readUInt64_ofJson (fun _ => nofun) l.timeoutMs
  have hsteps := (Reads.pure mk).withOptional 256 (by simp)
    (rfl : Only l.toJson.members "max_steps" _) (Json.readUInt64_ofJson l.maxSteps)
  have hall := hsteps.withOptional (some 300000) (by simp)
    (rfl : Only l.toJson.members "timeout_ms" _) htimeout
  exact hall.read "OperateConfig" .direct

/-! ## Texts -/

/-- The JSON form of an attachment is plain. -/
theorem Attachment.plain_toJson {k : Nat} (a : Attachment) : Plain (k + 2) a.toJson := by
  have hbyte (b : UInt8) : Plain k (.nat b.toNat) := ⟨trivial, Nat.zero_le k⟩
  have hbytes : Plain (k + 1) (.list (a.bytes.map fun b => .nat b.toNat)) :=
    .list_map hbyte a.bytes
  refine .object ?_
  simp only [List.forall_mem_cons]
  exact ⟨.text a.name, .text a.mediaType, hbytes, fun _ => nofun⟩

/-- The value holds no double. -/
def Value.FloatFree : Value → Prop
  | .float _ => False
  | .data d => d.json.FloatFree
  | _ => True

/-- No value in the record holds a double. -/
def Record.FloatFree (r : Record) : Prop := ∀ entry ∈ r.entries, entry.2.value.FloatFree

/-- No value in the output holds a double. -/
def Output.FloatFree (o : Output) : Prop := ∀ entry ∈ o.entries, entry.2.FloatFree

/-- The JSON form of a value without doubles has none. -/
theorem Value.floatFree_toJson {v : Value} (h : v.FloatFree) : v.toJson.FloatFree := by
  have hcontent : v.contentJson.FloatFree := by
    cases v with
    | text s => trivial
    | integer i => trivial
    | float f => exact h.elim
    | bool b => trivial
    | file a => exact (a.plain_toJson (k := 0)).free
    | data d => exact h
  exact ⟨trivial, hcontent, trivial⟩

/-- The JSON form of a parameter without doubles has none. -/
theorem Param.floatFree_toJson {p : Param} (h : p.value.FloatFree) : p.toJson.FloatFree :=
  ⟨Value.floatFree_toJson h, ⟨trivial, trivial, trivial, trivial⟩, trivial⟩

/-- The JSON form of a record without doubles has none. -/
theorem Record.floatFree_toJson {r : Record} (h : r.FloatFree) : r.toJson.FloatFree :=
  Json.floatFree_ofNamed fun entry hentry => Param.floatFree_toJson (h entry hentry)

/-- The JSON form of an output without doubles has none. -/
theorem Output.floatFree_toJson {o : Output} (h : o.FloatFree) : o.toJson.FloatFree :=
  Json.floatFree_ofNamed fun entry hentry => Value.floatFree_toJson (h entry hentry)

/-- The JSON form of a type tag is plain. -/
theorem TypeTag.plain_toJson {k : Nat} (t : TypeTag) : Plain (k + 1) t.toJson :=
  ⟨⟨trivial, trivial, trivial, trivial⟩, Nat.succ_le_succ (Nat.zero_le k)⟩

/-- The JSON form of an order is plain. -/
theorem Order.plain_toJson {k : Nat} (o : Order) : Plain (k + 4) o.toJson := by
  have hfiles : Plain (k + 3) (.list (o.files.map Attachment.toJson)) :=
    .list_map Attachment.plain_toJson o.files
  refine .object ?_
  simp only [List.forall_mem_cons]
  exact ⟨.text o.text, hfiles, fun _ => nofun⟩

/-- The JSON form of a waypoint is plain. -/
theorem Waypoint.plain_toJson {k : Nat} (w : Waypoint) : Plain (k + 1) w.toJson := by
  have hdepth : 1 ≤ k + 1 := Nat.succ_le_succ (Nat.zero_le k)
  cases w with
  | ingress => exact ⟨⟨trivial, trivial⟩, hdepth⟩
  | process name => exact ⟨⟨trivial, trivial, trivial⟩, hdepth⟩
  | switch name => exact ⟨⟨trivial, trivial, trivial⟩, hdepth⟩
  | egress name => exact ⟨⟨trivial, trivial, trivial⟩, hdepth⟩

/-- The JSON form of limits is plain. -/
theorem Limits.plain_toJson {k : Nat} (l : Limits) : Plain (k + 1) l.toJson := by
  have htimeout : Plain k (.option .uint64 l.timeoutMs) := by
    cases l.timeoutMs with
    | none => exact ⟨trivial, Nat.zero_le k⟩
    | some ms => exact ⟨trivial, Nat.zero_le k⟩
  refine .object ?_
  simp only [List.forall_mem_cons]
  exact ⟨⟨trivial, Nat.zero_le k⟩, htimeout, fun _ => nofun⟩

/-- A text without white space reads as what the tree of its value does. -/
theorem readString_compact {α : Type} {read : Source → Json.Result α} {json : Json} {a : α}
    (hread : read (.ofJson json) = .ok a) (h : Plain Json.maxDepth json) :
    readString read json.compact = .ok a :=
  (Json.readString_write read Layout.compact_blank h).trans hread

/-- The text of a value names its type before anything else. -/
theorem Value.write_toJson (v : Value) :
    ∃ rest, v.toJson.write .compact 0 =
      '\x7b' :: Json.quote "type" ++ ':' :: (Json.quote v.typeName ++ rest) :=
  ⟨Json.writeMembers .compact 1 [("value", v.contentJson)] ++ ['\x7d'], by
    simp [toJson, Json.write, Layout.compact]⟩

/-- **Values of different types have different texts,** doubles among them. -/
theorem Value.typeName_eq_of_compact {v v' : Value} (h : v.toJson.compact = v'.toJson.compact) :
    v.typeName = v'.typeName := by
  obtain ⟨rest, hrest⟩ := v.write_toJson
  obtain ⟨rest', hrest'⟩ := v'.write_toJson
  have hchars : v.toJson.write .compact 0 = v'.toJson.write .compact 0 := String.ofList_injective h
  rw [hrest, hrest'] at hchars
  have hnames := List.append_cancel_left hchars
  exact (Json.quote_append_inj (List.cons.inj hnames).2).1

/-- **What is written is read back.**  A value, a param, a record or an output without doubles whose
text is not nested too deep is read from its text without white space, and so is every type tag,
order, waypoint and record of limits.  No value is taken for one of another type, and no node for
another; and limits without a budget stay without one. -/
theorem compact_round_trip :
    (∀ v : Value, v.FloatFree → v.toJson.depth ≤ Json.maxDepth →
      readString Value.read v.toJson.compact = .ok v) ∧
    (∀ p : Param, p.value.FloatFree → p.toJson.depth ≤ Json.maxDepth →
      readString Param.read p.toJson.compact = .ok p) ∧
    (∀ r : Record, r.FloatFree → r.toJson.depth ≤ Json.maxDepth →
      readString Record.read r.toJson.compact = .ok r) ∧
    (∀ o : Output, o.FloatFree → o.toJson.depth ≤ Json.maxDepth →
      readString Output.read o.toJson.compact = .ok o) ∧
    (∀ t : TypeTag, readString TypeTag.read t.toJson.compact = .ok t) ∧
    (∀ o : Order, readString Order.read o.toJson.compact = .ok o) ∧
    (∀ w : Waypoint, readString Waypoint.read w.toJson.compact = .ok w) ∧
    (∀ l : Limits, readString Limits.read l.toJson.compact = .ok l) ∧
    (∀ v v' : Value, v.toJson.compact = v'.toJson.compact → v.typeName = v'.typeName) ∧
    (∀ w w' : Waypoint, w.toJson.compact = w'.toJson.compact → w = w') ∧
    ∀ maxSteps, ∃ l : Limits, l.timeoutMs = none ∧
      readString Limits.read (Limits.mk maxSteps none).toJson.compact = .ok l := by
  have hwaypoint (w : Waypoint) : readString Waypoint.read w.toJson.compact = .ok w :=
    readString_compact w.read_ofJson w.plain_toJson
  have hlimits (l : Limits) : readString Limits.read l.toJson.compact = .ok l :=
    readString_compact l.read_ofJson l.plain_toJson
  refine ⟨fun v hfree hdepth => ?_, fun p hfree hdepth => ?_, fun r hfree hdepth => ?_,
    fun o hfree hdepth => ?_, fun t => ?_, fun o => ?_, hwaypoint, hlimits,
    fun v v' => Value.typeName_eq_of_compact, fun w w' htexts => ?_, fun maxSteps => ?_⟩
  · exact readString_compact v.read_ofJson ⟨Value.floatFree_toJson hfree, hdepth⟩
  · exact readString_compact p.read_ofJson ⟨Param.floatFree_toJson hfree, hdepth⟩
  · exact readString_compact r.read_ofJson ⟨Record.floatFree_toJson hfree, hdepth⟩
  · exact readString_compact o.read_ofJson ⟨Output.floatFree_toJson hfree, hdepth⟩
  · exact readString_compact t.read_ofJson t.plain_toJson
  · exact readString_compact o.read_ofJson o.plain_toJson
  · have hboth := hwaypoint w
    rw [htexts, hwaypoint w'] at hboth
    exact (Except.ok.inj hboth).symm
  · exact ⟨⟨maxSteps, none⟩, rfl, hlimits ⟨maxSteps, none⟩⟩

/-- A five in three ways, null, two nodes that are called alike and limits without a budget. -/
theorem compact_round_trip_five :
    let five : Data := ⟨.nat 5, trivial⟩
    let null : Data := ⟨.null, trivial⟩
    readString Value.read (Value.integer 5).toJson.compact = .ok (.integer 5) ∧
      readString Value.read (Value.text "5").toJson.compact = .ok (.text "5") ∧
      readString Value.read (Value.data five).toJson.compact = .ok (.data five) ∧
      (Value.integer 5).toJson.compact ≠ (Value.data five).toJson.compact ∧
      readString Value.read (Value.data null).toJson.compact = .ok (.data null) ∧
      readString Waypoint.read (Waypoint.process "ingress").toJson.compact =
        .ok (.process "ingress") ∧
      Waypoint.ingress.toJson.compact ≠ (Waypoint.process "ingress").toJson.compact ∧
      readString Limits.read (Limits.mk 1 none).toJson.compact = .ok ⟨1, none⟩ := by
  intro five null
  obtain ⟨hvalue, -, -, -, -, -, hwaypoint, hlimits, htypes, hnodes, -⟩ := compact_round_trip
  refine ⟨hvalue _ trivial (by decide), hvalue _ trivial (by decide),
    hvalue _ trivial (by decide), fun htexts => ?_, hvalue _ trivial (by decide), hwaypoint _,
    fun htexts => ?_, hlimits _⟩
  · have htypes := htypes _ _ htexts
    revert htypes
    decide
  · cases hnodes _ _ htexts

end ApparatusGraph
