import FixturePlan.Proofs.Entity.Join
import FixturePlan.Proofs.Plan.Order
import FixturePlan.Proofs.Schema.CreationOrder

/-!
# Extraction in creation order

Extraction reads the tables one after the other, so that the rows of an earlier table have smaller
numbers (`Extractor.lt_of_idxOf_lt`). If tables are read in creation order and the NOT NULL keys form
no circle, a required link leads to a row of an earlier table, and the order of the entities is the
one in which they were extracted.
-/

namespace FixturePlan.Extractor

variable (x : Extractor)

/-! ### Rows of earlier tables

Entities are numbered table by table, so that an earlier table has lower numbers. -/

section Position

variable (hs : x.schema.WellFormed) {order : List TableId} (hnodup : order.Nodup)

include hs hnodup

/-- The origins come in the order of their tables. -/
theorem pairwise_origins : (x.origins order).Pairwise fun o o' =>
    order.idxOf o.table.id ≤ order.idxOf o'.table.id := by
  rw [origins, List.pairwise_flatMap]
  refine ⟨fun t _ => ?_, ?_⟩
  · refine List.pairwise_of_forall_mem_list fun o ho o' ho' => Nat.le_of_eq ?_
    rw [x.table_of_mem_originsOf ho, x.table_of_mem_originsOf ho']
  · refine List.pairwise_filterMap.2 (List.pairwise_iff_getElem.2 fun i j hi hj hlt => ?_)
    intro t ht t' ht' o ho o' ho'
    rw [x.table_of_mem_originsOf ho, x.table_of_mem_originsOf ho', hs.table_id _ t ht,
      hs.table_id _ t' ht', hnodup.idxOf_getElem i hi, hnodup.idxOf_getElem j hj]
    exact Nat.le_of_lt hlt

theorem lt_of_idxOf_lt {i j : EntityId} {o o' : Origin} (ho : (x.origins order)[i]? = some o)
    (ho' : (x.origins order)[j]? = some o')
    (h : order.idxOf o.table.id < order.idxOf o'.table.id) : i < j := by
  obtain ⟨hi, rfl⟩ := List.getElem?_eq_some_iff.1 ho
  obtain ⟨hj, rfl⟩ := List.getElem?_eq_some_iff.1 ho'
  rcases Nat.lt_trichotomy i j with hlt | rfl | hgt
  · exact hlt
  · exact absurd h (Nat.lt_irrefl _)
  · have hle := List.pairwise_iff_getElem.1 (x.pairwise_origins hs hnodup) j i hj hi hgt
    exact absurd h (Nat.not_lt_of_le hle)

end Position

/-! ### Required links

A required link is by a NOT NULL key, whose target comes earlier in the creation order unless tables need
each other in a circle. -/

/-- The entities of all tables, extracted in creation order. -/
abbrev inCreationOrder : EntitySet := (x.extract x.schema.creationOrder).state.entities

/-- A required link finds its match among the entities extracted before. -/
theorem match?_lt_of_mem_required (hs : x.schema.WellFormed)
    (hacyclic : ∀ t, ¬Relation.TransGen x.schema.NeededBy t t)
    (hself : ∀ k ∈ x.schema.foreignKeys, k.nullable = false → k.isSelfReference = false)
    (hextract : (x.extract x.schema.creationOrder).failure = none) {e : Entity}
    (he : e ∈ x.inCreationOrder.toList) {l : Link} (hl : l ∈ e.required) {p : Placeholder}
    (htarget : l.target = .placeholder p) {t : EntityId}
    (hmatch : Resolving.match? x.schema x.inCreationOrder p = some t) : t < e.id := by
  obtain ⟨id, hid⟩ := EntitySet.mem_toList_iff.1 he
  obtain ⟨o, ho, hentity⟩ := x.exists_origin_of_get? hextract hid
  obtain ⟨⟨k, name⟩, hentry, hnullable, href⟩ := (Extract.mem_required_of_entity hentity).1 hl
  obtain ⟨found, -, -, rfl⟩ := Extract.reference_eq_ok_some_iff.1 href
  obtain rfl := Reference.placeholder.inj htarget
  -- the link leads from the source of the key to a row of its target
  obtain ⟨e', he', htable, -⟩ := Resolving.carriesAt_of_match? hmatch
  obtain ⟨o', ho', hentity'⟩ := x.exists_origin_of_get? hextract he'
  have htarget' : o'.table.id = k.target := (Extract.table_of_entity hentity').symm.trans htable
  have hout := Layout.mem_outgoing_of_mem_references x.schema x.strategies.naming o.table hentry
  obtain ⟨hk, hsource⟩ :=
    (hs.mem_outgoing_iff (x.table_mem_of_mem_origins (List.mem_of_getElem? ho))).1 hout
  have hneeded : x.schema.NeededBy o'.table.id o.table.id :=
    ⟨k, hk, hnullable, hself k hk hnullable, htarget'.symm, hsource⟩
  have hlt := x.lt_of_idxOf_lt hs (Schema.nodup_creationOrder _) ho' ho
    (Schema.idxOf_creationOrder_lt hs.numbered hacyclic hneeded)
  rwa [EntitySet.id_of_get? hid]

/-- If the tables of a built schema need each other in no circle and none needs itself, entities
extracted in creation order and matched require only entities with smaller numbers, and their order is
that of their numbers. -/
theorem topological_of_creationOrder {metadata : Source} {exclude : List Text.Pattern}
    {name : String} {policy : UnresolvedPolicy}
    (hbuild : (Schema.build metadata exclude name).result = .ok x.schema)
    (hacyclic : ∀ t, ¬Relation.TransGen x.schema.NeededBy t t)
    (hself : ∀ k ∈ x.schema.foreignKeys, k.nullable = false → k.isSelfReference = false)
    (hextract : (x.extract x.schema.creationOrder).failure = none)
    (hresolve : (x.inCreationOrder.resolve x.schema policy).failure = none) :
    (∀ e ∈ (x.inCreationOrder.resolve x.schema policy).state.entities.toList,
      ∀ l ∈ e.required, ∀ t, l.target = .resolved t → t < e.id) ∧
    (x.inCreationOrder.resolve x.schema policy).state.entities.topologicalOrder =
      .ok (List.range (x.inCreationOrder.resolve x.schema policy).state.entities.size) := by
  have hs := Schema.wellFormed_of_build hbuild
  have hbefore : ∀ e ∈ (x.inCreationOrder.resolve x.schema policy).state.entities.toList,
      ∀ l ∈ e.required, ∀ t, l.target = .resolved t → t < e.id := by
    -- both ends of the link are rows, and rows of an earlier table have lower numbers
    intro e he l hl t ht
    obtain ⟨e₀, he₀, rfl⟩ := EntitySet.exists_of_mem_resolve hresolve he
    obtain ⟨l₀, hl₀, rfl⟩ := Entity.mem_required_settled.1 hl
    obtain ⟨p, hp⟩ := x.exists_placeholder_of_extract hextract he₀ (List.mem_append_left _ hl₀)
    rcases l₀.target_settled_eq_resolved_iff.1 ht with h | ⟨p', hp', hfound⟩
    · simp [hp] at h
    · rw [Entity.id_settled]
      exact x.match?_lt_of_mem_required hs hacyclic hself hextract he₀ hl₀ hp' hfound
  refine ⟨hbefore, EntitySet.topologicalOrder_eq_range ?_ ?_⟩
  -- a resolved set waits for nothing, so that the sort cannot fail for that
  · refine EntitySet.firstPlaceholder?_eq_none_iff.2 fun e he l hl => ?_
    obtain ⟨e₀, -, rfl⟩ := EntitySet.exists_of_mem_resolve hresolve he
    obtain ⟨l₀, -, rfl⟩ := Entity.mem_required_settled.1 hl
    exact l₀.target_settled_ne_placeholder
  · intro e he t ht
    obtain ⟨l, hl, htarget⟩ := Entity.mem_requiredEntities.1 ht
    exact hbefore e he l hl t htarget

/-! ### The sample -/

theorem creationOrder_sampleSchema : sampleSchema.creationOrder = [1, 0] :=
  Schema.creationOrder_eq (by decide) rfl rfl

/-- The first visit requires the city of its row, which has been read before. -/
theorem topological_of_creationOrder_sample :
    (sampleExtractor.inCreationOrder.resolve sampleSchema .warn).state.entities.topologicalOrder =
        .ok [0, 1, 2] ∧
      ∃ e ∈ (sampleExtractor.inCreationOrder.resolve sampleSchema .warn).state.entities.toList,
        e.label = "visit[#1]" ∧ ∃ l ∈ e.required, l.target = .resolved 0 ∧ 0 < e.id := by
  have hforward : ∀ a b, sampleSchema.NeededBy a b → b < a := by
    rintro _ _ ⟨k, hk, -, -, rfl, rfl⟩
    revert k
    decide
  have hacyclic : ∀ t, ¬Relation.TransGen sampleSchema.NeededBy t t := by
    have hpath : ∀ a b, Relation.TransGen sampleSchema.NeededBy a b → b < a := by
      intro a b h
      induction h with
      | single h => exact hforward _ _ h
      | tail _ h ih => exact Nat.lt_trans (hforward _ _ h) ih
    exact fun t h => Nat.lt_irrefl t (hpath t t h)
  have hextract : (sampleExtractor.extract sampleSchema.creationOrder).failure = none := by
    rw [creationOrder_sampleSchema]
    decide
  have hresolve : (sampleExtractor.inCreationOrder.resolve sampleSchema .warn).failure = none :=
    EntitySet.failure_resolve_eq_none_iff.2 nofun
  have hentities : (sampleExtractor.inCreationOrder.resolve sampleSchema .warn).state.entities =
      (sampleExtractor.extract [1, 0]).state.entities.settled
        (Resolving.match? sampleSchema (sampleExtractor.extract [1, 0]).state.entities) := by
    rw [EntitySet.entities_resolve hresolve]
    show (sampleExtractor.extract sampleSchema.creationOrder).state.entities.settled
      (Resolving.match? sampleSchema (sampleExtractor.extract sampleSchema.creationOrder).state.entities) = _
    rw [creationOrder_sampleSchema]
  obtain ⟨hbefore, horder⟩ := topological_of_creationOrder sampleExtractor result_build_sampleSource
    hacyclic (by decide) hextract hresolve
  have hvisit : ∃ e ∈ (sampleExtractor.inCreationOrder.resolve sampleSchema .warn).state.entities.toList,
      e.label = "visit[#1]" ∧ ∃ l ∈ e.required, l.target = .resolved 0 := by
    rw [hentities]
    decide
  refine ⟨?_, ?_⟩
  · have hsize :
        (sampleExtractor.inCreationOrder.resolve sampleSchema .warn).state.entities.size = 3 := by
      rw [hentities]
      decide
    exact horder.trans (congrArg (fun n => Except.ok (List.range n)) hsize)
  · obtain ⟨e, he, hlabel, l, hl, htarget⟩ := hvisit
    exact ⟨e, he, hlabel, l, hl, htarget, hbefore e he l hl 0 htarget⟩

end FixturePlan.Extractor
