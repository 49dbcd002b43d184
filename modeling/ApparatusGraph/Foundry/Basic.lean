/-
# Apparatus and foundries

An apparatus is a named callable with a declared contract for each of its sides.  A
foundry is a finite set of apparatus by name; it is built once, by `register`, which
refuses two apparatus of one name.

`Foundry.manifest` lists what there is to know about each apparatus besides its
callable, in the order of the names.
-/

import ApparatusGraph.Call
import ApparatusGraph.Text.Blank
import ApparatusGraph.Value.Json

namespace ApparatusGraph

/-- An apparatus that turns a record into a record. -/
structure Processor (σ : Type) where
  name : String
  description : String
  input : Contract
  output : Contract
  process : Record → Call σ Record
  named : Text.isBlankText name = false

/-- An apparatus that decides a verdict and gives the record for the branch it decides. -/
structure Switcher (σ : Type) where
  name : String
  description : String
  input : Contract
  whenTrue : Contract
  whenFalse : Contract
  check : Record → Call σ (Bool × Record)
  named : Text.isBlankText name = false

variable {σ : Type}

/-- The output contract of the branch that a verdict takes. -/
def Switcher.outputFor (s : Switcher σ) (verdict : Bool) : Contract :=
  if verdict then s.whenTrue else s.whenFalse

/-- A named callable of either kind. -/
inductive Apparatus (σ : Type) where
  | processor (p : Processor σ)
  | switcher (s : Switcher σ)

/-- What there is to know about an apparatus besides its callable. -/
structure Signature where
  name : String
  kind : ApparatusKind
  description : String
  input : Contract
  output : Option Contract := none
  whenTrue : Option Contract := none
  whenFalse : Option Contract := none
  deriving DecidableEq

namespace Signature

/-- The member for a contract, if it is declared. -/
def contractMember (name : String) : Option Contract → List (String × Json)
  | some c => [(name, c.toJson)]
  | none => []

/-- The JSON form of a signature: outputs only on the sides its kind has. -/
def toJson (s : Signature) : Json :=
  .object ([("name", .text s.name), ("kind", s.kind.toJson), ("description", .text s.description),
    ("input", s.input.toJson)] ++ contractMember "output" s.output ++
    contractMember "outputWhenTrue" s.whenTrue ++ contractMember "outputWhenFalse" s.whenFalse)

end Signature

namespace Apparatus

/-- The name of an apparatus. -/
def name : Apparatus σ → String
  | processor p => p.name
  | switcher s => s.name

/-- The name of an apparatus is not blank. -/
theorem named (a : Apparatus σ) : Text.isBlankText a.name = false := by
  cases a with
  | processor p => exact p.named
  | switcher s => exact s.named

/-- What an apparatus is for. -/
def description : Apparatus σ → String
  | processor p => p.description
  | switcher s => s.description

/-- The kind of an apparatus. -/
def kind : Apparatus σ → ApparatusKind
  | processor _ => .processor
  | switcher _ => .switcher

/-- The signature of an apparatus. -/
def signature : Apparatus σ → Signature
  | processor p =>
    { name := p.name, kind := .processor, description := p.description, input := p.input,
      output := some p.output }
  | switcher s =>
    { name := s.name, kind := .switcher, description := s.description, input := s.input,
      whenTrue := some s.whenTrue, whenFalse := some s.whenFalse }

end Apparatus

/-- After an entry was placed, the entries are that one and those from before. -/
theorem Named.mem_place {α : Type} {name : String} {a : α} {l : List (String × α)}
    {e : String × α} (h : e ∈ Named.place name a l) : e = (name, a) ∨ e ∈ l := by
  induction l with
  | nil => simpa [Named.place] using h
  | cons e' rest ih =>
    unfold Named.place at h
    split at h
    · simpa using h
    · split at h
      · rcases List.mem_cons.1 h with h | h
        · exact .inl h
        · exact .inr (List.mem_cons_of_mem _ h)
      · rcases List.mem_cons.1 h with h | h
        · exact .inr (h ▸ List.mem_cons_self)
        · exact (ih h).imp id (List.mem_cons_of_mem _)

/-- A set of apparatus, each under its own name. -/
structure Foundry (σ : Type) where
  apparatus : Named (Apparatus σ)
  named : ∀ e ∈ apparatus.entries, e.2.name = e.1

namespace Foundry

/-- The foundry without apparatus. -/
def empty : Foundry σ := ⟨∅, by simp [EmptyCollection.emptyCollection, Named.empty]⟩

instance : EmptyCollection (Foundry σ) := ⟨empty⟩

instance : Inhabited (Foundry σ) := ⟨empty⟩

/-- The foundry with one more apparatus under a name that is still free and not blank
(`Text.trim_eq_empty_iff`); a blank one is refused here once more, though no apparatus has one
(`Apparatus.named`). -/
def add (f : Foundry σ) (a : Apparatus σ) : Except RegistryError (Foundry σ) :=
  if Text.isBlankText a.name then .error .missingName
  else if f.apparatus.contains a.name then .error (.duplicateName a.name)
  else .ok {
    apparatus := f.apparatus.insert a.name a
    named := fun e he => by
      rcases Named.mem_place he with rfl | he
      · rfl
      · exact f.named e he }

/-- Adds apparatus one after the other. -/
def addAll (f : Foundry σ) : List (Apparatus σ) → Except RegistryError (Foundry σ)
  | [] => .ok f
  | a :: rest => do
    let f ← f.add a
    f.addAll rest

/-- The foundry of the given apparatus, processors before switchers. -/
def register (processors : List (Processor σ)) (switchers : List (Switcher σ)) :
    Except RegistryError (Foundry σ) :=
  addAll ∅ (processors.map .processor ++ switchers.map .switcher)

/-- The apparatus of a name. -/
def get? (f : Foundry σ) (name : String) : Option (Apparatus σ) := f.apparatus.get? name

/-- The apparatus of a name, or that there is none. -/
def lookup (f : Foundry σ) (name : String) : Except RegistryError (Apparatus σ) :=
  match f.get? name with
  | some a => .ok a
  | none => .error (.notFound name)

/-- The processor of a name, if there is one. -/
def processor? (f : Foundry σ) (name : String) : Option (Processor σ) :=
  match f.get? name with
  | some (.processor p) => some p
  | _ => none

/-- The switcher of a name, if there is one. -/
def switcher? (f : Foundry σ) (name : String) : Option (Switcher σ) :=
  match f.get? name with
  | some (.switcher s) => some s
  | _ => none

/-- True of the names of apparatus. -/
def contains (f : Foundry σ) (name : String) : Bool := f.apparatus.contains name

/-- The number of apparatus. -/
def size (f : Foundry σ) : Nat := f.apparatus.size

/-- The names in order. -/
def names (f : Foundry σ) : List String := f.apparatus.names

/-- The signatures in the order of the names. -/
def manifest (f : Foundry σ) : List Signature := f.apparatus.values.map Apparatus.signature

/-- The JSON form of the manifest. -/
def manifestJson (f : Foundry σ) : Json := .list (f.manifest.map Signature.toJson)

end Foundry
end ApparatusGraph
