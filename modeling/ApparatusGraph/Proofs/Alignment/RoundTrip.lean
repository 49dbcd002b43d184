/-
# Alignments, written and read back

The text of an alignment reads as the alignment, in any layout (`Alignment.ofText_write`): the
JSON form of an alignment is one of the ways to present it, and it has no doubles and few
containers inside one another (`Alignment.plain_toJson`).
-/

import ApparatusGraph.Engine
import ApparatusGraph.Proofs.Alignment.Presentation

namespace ApparatusGraph

open Json (Plain)

/-- The JSON form of a node is plain. -/
theorem Node.plain_toJson {k : Nat} (n : Node) : Plain (k + 2) n.toJson := .object n.plain_members

namespace Alignment

/-- The JSON form of an alignment is plain. -/
theorem plain_toJson {k : Nat} (a : Alignment) : Plain (k + 4) a.toJson := by
  have hnodes : Plain (k + 3) (.list (a.operations.map Node.toJson)) :=
    .list_map Node.plain_toJson a.operations
  exact .object fun member hmember => List.mem_singleton.1 hmember ▸ hnodes

/-- **What is written is read back**, in any layout. -/
theorem ofText_write {l : Json.Layout} (hl : l.Blank) (a : Alignment) :
    ofText (.ofList (a.toJson.write l 0)) = .ok a :=
  (Json.readString_write read hl a.plain_toJson).trans
    (read_of_presents (a.presents_toJson 0))

/-- An alignment is read from its own indented text. -/
theorem ofText_toText (a : Alignment) : ofText a.toText = .ok a :=
  ofText_write Json.Layout.spread_blank a

/-- An alignment is read from its own compact text. -/
theorem ofText_compact (a : Alignment) : ofText a.toJson.compact = .ok a :=
  ofText_write Json.Layout.compact_blank a

variable {σ : Type}

/-- A text that is an alignment is the blueprint that always drafts it. -/
theorem blueprint_ofText {t : String} {a : Alignment} (h : ofText t = .ok a) :
    ∃ blueprint : Blueprint σ, Blueprint.ofText t = .ok blueprint ∧
      ∀ foundry order, blueprint.draft foundry order = .ok a := by
  refine ⟨.fixed a, ?_, fun _ _ => rfl⟩
  rw [Blueprint.ofText, h]
  rfl

/-- **An alignment and its text say the same.**  Every alignment has a text, whatever its nodes are
and whether or not it is good; it is read back from its text, and a blueprint of the text drafts
it.  So a text that reads as an alignment may be exchanged for the text of the alignment. -/
theorem text_round_trip :
    (∀ a : Alignment, ofText a.toText = .ok a ∧
      ∃ blueprint : Blueprint σ, Blueprint.ofText a.toText = .ok blueprint ∧
        ∀ foundry order, blueprint.draft foundry order = .ok a) ∧
    ∀ (t : String) (a : Alignment), ofText t = .ok a →
      ofText a.toText = ofText t ∧
        ∃ blueprint : Blueprint σ, Blueprint.ofText t = .ok blueprint ∧
          ∀ foundry order, blueprint.draft foundry order = .ok a := by
  constructor
  · intro a
    exact ⟨ofText_toText a, blueprint_ofText (ofText_toText a)⟩
  · intro t a h
    exact ⟨(ofText_toText a).trans h.symm, blueprint_ofText h⟩

/-- An alignment that leads nowhere, with nothing between the tokens of its text. -/
theorem text_round_trip_compact :
    let a : Alignment := ⟨[.ingress { next := "\"", promptAddr := "" }]⟩
    ofText a.toJson.compact = .ok a ∧ ofText a.toText = ofText a.toJson.compact := by
  intro a
  exact ⟨ofText_compact a, ((text_round_trip (σ := Unit)).2 _ a (ofText_compact a)).1⟩

end Alignment
end ApparatusGraph
