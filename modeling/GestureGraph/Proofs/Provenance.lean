import GestureGraph.Proofs.Creation
import GestureGraph.Proofs.Pieces
import GestureGraph.Proofs.Room
import GestureGraph.Proofs.Run

namespace GestureGraph

def Json.keys : Json → List String
  | .obj members => members.map Prod.fst
  | _ => []

theorem provenance_of_ofConfig {config : Config} {axioms : Axioms}
    (h : Axioms.ofConfig config = .ok axioms) : axioms.provenance = config.provenance := by
  simp only [Axioms.ofConfig, Program.bind_eq_ok_iff] at h
  obtain ⟨_, _, _, _, _, _, banned, _, h⟩ := h
  cases h
  rfl

namespace Metadata

def figures : List String :=
  ["context_name", "operator", "entity_count", "relation_count", "coherence_final",
    "blind_spots_count", "dialogues_count", "created_at"]

theorem keys_toJson (m : Metadata) : m.toJson.keys = m.provenance.keys ++ figures := by
  simp [toJson, members, Json.keys, Table.keys, figures]

theorem nodup_keys_toJson_iff (m : Metadata) :
    m.toJson.keys.Nodup ↔ ∀ key ∈ figures, m.provenance.contains key = false := by
  have hfigures : figures.Nodup := by decide
  rw [keys_toJson, List.nodup_append]
  constructor
  · rintro ⟨_, _, hapart⟩ key hkey
    rw [← Bool.not_eq_true, Table.contains_iff_mem_keys]
    exact fun hmem => hapart key hmem key hkey rfl
  · intro hfree
    refine ⟨Table.nodup_keys m.provenance, hfigures, ?_⟩
    rintro key hmem _ hkey rfl
    have hcontains := (Table.contains_iff_mem_keys m.provenance key).mpr hmem
    rw [hfree key hkey] at hcontains
    cases hcontains

end Metadata

namespace Machine

theorem metadata_keys_distinct_iff {config : Config} {axioms : Axioms}
    (hconfig : Axioms.ofConfig config = .ok axioms) {name : String} {now : Nat} {c : Context}
    (hc : Context.create name axioms now = .ok c) {actions : List Action}
    (ha : ∀ a ∈ actions, a.Lawful Tame) {m : Machine}
    (hm : m ∈ stations actions { context := c }) :
    m.context.metadata.1.toJson.keys = config.provenance.keys ++ Metadata.figures ∧
    (m.context.metadata.1.toJson.keys.Nodup ↔
      ∀ key ∈ Metadata.figures, config.provenance.contains key = false) := by
  have haxioms : m.context.axioms = axioms :=
    (Context.Reaches.frame ((Context.reaches_of_create hc).trans (reaches_stations ha hm))).2.2
  have hprovenance : m.context.metadata.1.provenance = config.provenance := by
    rw [← provenance_of_ofConfig hconfig, ← haxioms]
    rfl
  rw [← hprovenance]
  exact ⟨Metadata.keys_toJson _, Metadata.nodup_keys_toJson_iff _⟩

def unbanned (config : Config) : Axioms :=
  ⟨config.limits, [], config.blindSpots, config.provenance⟩

def attributed : Config :=
  { patterns := [], provenance := .ofList [("operators", "two"), ("created_by", "rehearsal")] }

theorem attributed_metadata_keys_distinct :
    Axioms.ofConfig attributed = .ok (unbanned attributed) ∧
    ∃ c, Context.create "attributed" (unbanned attributed) 0 = .ok c ∧
      (∀ a ∈ rehearsal, a.Lawful Tame) ∧
      perform rehearsal { context := c } ∈ stations rehearsal { context := c } ∧
      (perform rehearsal { context := c }).context.metadata.1.toJson.keys =
        ["created_by", "operators"] ++ Metadata.figures ∧
      (perform rehearsal { context := c }).context.metadata.1.toJson.keys.Nodup := by
  have hconfig : Axioms.ofConfig attributed = .ok (unbanned attributed) := rfl
  obtain ⟨c, hc⟩ := Context.create_of_room "attributed" 0
    (show 6 ≤ (unbanned attributed).limits.entities by decide)
  have hend := perform_mem_stations rehearsal { context := c }
  obtain ⟨hkeys, hdistinct⟩ := metadata_keys_distinct_iff hconfig hc lawful_rehearsal hend
  exact ⟨hconfig, c, hc, lawful_rehearsal, hend, hkeys, hdistinct.mpr (by decide)⟩

def overcounted : Config :=
  { patterns := [], provenance := .ofList [("entity_count", "many")] }

theorem overcounted_metadata_repeats_key :
    Axioms.ofConfig overcounted = .ok (unbanned overcounted) ∧
    ∃ c, Context.create "overcounted" (unbanned overcounted) 0 = .ok c ∧
      ¬ c.metadata.1.toJson.keys.Nodup := by
  obtain ⟨c, hc⟩ := Context.create_of_room "overcounted" 0
    (show 6 ≤ (unbanned overcounted).limits.entities by decide)
  have haxioms : c.axioms = unbanned overcounted := (Context.reaches_of_create hc).frame.2.2
  have hprovenance : c.metadata.1.provenance = overcounted.provenance :=
    congrArg Axioms.provenance haxioms
  refine ⟨rfl, c, hc, ?_⟩
  rw [Metadata.nodup_keys_toJson_iff, hprovenance]
  exact fun hfree => nomatch hfree "entity_count" (by decide)

end Machine

end GestureGraph
