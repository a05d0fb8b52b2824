import FixturePlan.Proofs.Entity.Join
import FixturePlan.Proofs.Strategy.Literal

/-!
# Matches by stored values

Rows are matched by tokens, which the cells of the key give as values of the target columns. Written as
literals, in columns that hold no truth values and are not numbers, tokens are equal only if the cells are,
floats apart. There a lookup finds the first row that stores the values of the key
(`Extractor.lookup_by_stored_values`).
-/

namespace FixturePlan

/-- Cells other than floats give different literals if they differ. -/
theorem Rendering.literal_inj {typeName typeName' : String} {code code' : TypeCode}
    {target target' : String} (h : Literal.TellsApart code target)
    (h' : Literal.TellsApart code' target') {v w : Cell} (hv : ∀ r, v ≠ .real r)
    (hw : ∀ r, w ≠ .real r) :
    literal v typeName code target = literal w typeName' code' target' ↔ v = w := by
  rw [literal, literal, Token.mk.injEq, Literal.ofCell_inj h h' hv hw]

namespace Extractor

variable (x : Extractor) (order : List TableId)

/-- A row stores in the columns of a key what another stores in the columns that the key leads to, and
no NULL. -/
structure RefersTo (k : ForeignKey) (o o' : Origin) : Prop where
  table_eq : o'.table.id = k.target
  pairs : ∀ p ∈ k.pairs, ∃ v : Cell, v.isNull = false ∧ o.cell? p.sourceIndex = some v ∧
    o'.cell? p.targetIndex = some v

/-- A row refers by a key to the extracted row of a number. -/
def RefersAt (k : ForeignKey) (o : Origin) (j : EntityId) : Prop :=
  ∃ o', (x.origins order)[j]? = some o' ∧ RefersTo k o o'

/-- The literals of the columns that a key leads to tell cells apart, and there are no floats in the
columns of the key. -/
structure TellsCells (k : ForeignKey) (o : Origin) : Prop where
  column : ∀ u, x.schema.table? k.target = some u → ∀ p ∈ k.pairs, ∀ c,
    u.columns[p.targetIndex]? = some c →
      Literal.TellsApart c.dataType.code (x.strategies.targetType c)
  source_ne : ∀ p ∈ k.pairs, ∀ r, o.cell? p.sourceIndex ≠ some (.real r)
  target_ne : ∀ o' ∈ x.origins order, o'.table.id = k.target → ∀ p ∈ k.pairs, ∀ r,
    o'.cell? p.targetIndex ≠ some (.real r)

variable {x order} {k : ForeignKey} {o : Origin}

/-- Joining by tokens is referring by cells. -/
theorem joins_iff_refersTo (hrendering : x.strategies.rendering = .literal) (hs : x.schema.WellFormed)
    (hk : k ∈ x.schema.foreignKeys) (htold : x.TellsCells order k o) {o' : Origin}
    (ho' : o' ∈ x.origins order) : x.Joins k o o' ↔ RefersTo k o o' := by
  have hu : o'.table.id = k.target → x.schema.table? k.target = some o'.table := by
    intro hid
    rw [← hid, hs.table?_id (x.table_mem_of_mem_origins ho')]
  have hrender : ∀ v c, x.strategies.render v c =
      Rendering.literal v c.dataType.name c.dataType.code (x.strategies.targetType c) := by
    intro v c
    rw [Strategies.render, hrendering]
  -- cell by cell: where the rendering tells cells apart, equal tokens mean equal cells
  constructor
  · rintro ⟨hid, hpairs⟩
    refine ⟨hid, fun p hp => ?_⟩
    obtain ⟨v, w, c, hv, hnull, hw, -, hc, heq⟩ := hpairs p hp
    have happart := htold.column _ (hu hid) p hp c hc
    rw [hrender, hrender, Rendering.literal_inj happart happart
      (fun r hr => htold.source_ne p hp r (hr ▸ hv))
      (fun r hr => htold.target_ne o' ho' hid p hp r (hr ▸ hw))] at heq
    exact ⟨v, hnull, hv, heq ▸ hw⟩
  · rintro ⟨hid, hpairs⟩
    refine ⟨hid, fun p hp => ?_⟩
    obtain ⟨v, hnull, hv, hw⟩ := hpairs p hp
    obtain ⟨c, hc, -⟩ := exists_column hs hk (hu hid) hp
    exact ⟨v, v, c, hv, hnull, hw, hnull, hc, rfl⟩

theorem joinsAt_iff_refersAt (hrendering : x.strategies.rendering = .literal)
    (hs : x.schema.WellFormed) (hk : k ∈ x.schema.foreignKeys) (htold : x.TellsCells order k o)
    {j : EntityId} : x.JoinsAt order k o j ↔ x.RefersAt order k o j :=
  exists_congr fun _ => and_congr_right fun ho' =>
    joins_iff_refersTo hrendering hs hk htold (List.mem_of_getElem? ho')

/-- Literals of cells other than floats are equal only if the cells are, where the type holds no truth
values and the target type is not a number. So at any moment of a resolution, the lookup for a link of an
extracted row by a key with such columns finds the first row that stores the values of the key. -/
theorem lookup_by_stored_values :
    (∀ typeName code target, Literal.TellsApart code target → ∀ v w : Cell, (∀ r, v ≠ .real r) →
      (∀ r, w ≠ .real r) →
      Rendering.literal v typeName code target = Rendering.literal w typeName code target → v = w) ∧
    ∀ (x : Extractor) (metadata : Source) (exclude : List Text.Pattern) (name : String)
      (order : List TableId), x.strategies.rendering = .literal →
      (Schema.build metadata exclude name).result = .ok x.schema → x.NamesApart order →
      (x.extract order).failure = none →
      ∀ i o, (x.origins order)[i]? = some o → ∃ e, (x.extract order).state.entities.get? i = some e ∧
        ∀ k ∈ x.schema.outgoing o.table, x.TellsCells order k o →
          ∀ l ∈ e.links, l.foreignKey = k.id → ∃ q, l.target = .placeholder q ∧
            ∀ policy jobs j, (Resolving.lookup x.schema (Pass.run (Resolving.step x.schema policy)
                ⟨(x.extract order).state.entities, ⟨0, 0, 0⟩, ∅⟩ jobs).state q).1 = some j ↔
              x.RefersAt order k o j ∧ ∀ j' < j, ¬x.RefersAt order k o j' := by
  refine ⟨fun _ _ _ h v w hv hw => (Rendering.literal_inj h h hv hw).1, ?_⟩
  intro x metadata exclude name order hrendering hbuild hnames hextract i o ho
  have hs := Schema.wellFormed_of_build hbuild
  have htable := x.table_mem_of_mem_origins (List.mem_of_getElem? ho)
  obtain ⟨e, he, hentity⟩ := x.exists_get?_of_origin hextract ho
  refine ⟨e, he, fun k hout htold l hl hid => ?_⟩
  have hk := ((hs.mem_outgoing_iff htable).1 hout).1
  obtain ⟨_, u, hj⟩ := hs.exists_joins k hk
  obtain ⟨found, hfound⟩ := exists_sought hentity hout
  refine ⟨placeholderOf k found, target_of_mem_links hs htable hk hfound hentity hl hid, ?_⟩
  intro policy jobs j
  have hindexed : Resolving.Indexed (x.extract order).state.entities
      (Pass.run (Resolving.step x.schema policy)
        ⟨(x.extract order).state.entities, ⟨0, 0, 0⟩, ∅⟩ jobs).state :=
    Resolving.indexed_run (.start _ _) jobs
  rw [hindexed.lookup_fst]
  simp only [← joinsAt_iff_refersAt hrendering hs hk htold]
  by_cases hnull : none ∈ found
  · -- a key with a NULL is looked up in vain, and refers to nothing
    rw [match?_of_incomplete hs hk hfound hnull]
    refine ⟨nofun, fun ⟨⟨o', _, hjoins⟩, _⟩ => ?_⟩
    obtain ⟨p, hp, v, hv, hvnull⟩ := (none_mem_sought_iff hs hk hj.target_eq hfound).1 hnull
    obtain ⟨v', _, _, hv', hvnull', -⟩ := hjoins.pairs p hp
    obtain rfl : v' = v := Option.some.inj (hv'.symm.trans hv)
    rw [hvnull] at hvnull'
    cases hvnull'
  · exact match?_eq_some_iff hs hk hj.target_eq hfound hnames hextract hnull

/-- What extracts the visits and cities of the sample, their names written as literals. -/
def literalExtractor : Extractor :=
  ⟨sampleSchema, sampleSource, ⟨.verbatim, fun _ => "String", .literal⟩, 100⟩

theorem lookup_by_stored_values_sample :
    Rendering.literal (.text "\x01") "text" .other "String" ≠
      Rendering.literal (.text "\\u\x7b1\x7d") "text" .other "String" ∧
    ∃ e l q, (literalExtractor.extract [0, 1]).state.entities.get? 0 = some e ∧ l ∈ e.links ∧
      l.target = .placeholder q ∧
      (Resolving.lookup sampleSchema
        ⟨(literalExtractor.extract [0, 1]).state.entities, ⟨0, 0, 0⟩, ∅⟩ q).1 = some 2 := by
  have happart : Literal.TellsApart .other "String" := ⟨by decide, by decide, by decide⟩
  obtain ⟨htokens, hlookup⟩ := lookup_by_stored_values
  constructor
  · intro heq
    have hsame := htokens _ _ _ happart _ _ (fun _ h => by cases h) (fun _ h => by cases h) heq
    exact absurd (Cell.text.inj hsame) (by decide)
  have hnames : literalExtractor.NamesApart [0, 1] := by
    have hknown : ∀ o ∈ literalExtractor.origins [0, 1], o.columns.unknown = [] := by decide
    refine ⟨by decide, ?_⟩
    intro o ho position hposition
    rw [hknown o ho] at hposition
    cases hposition
  obtain ⟨o, ho⟩ : ∃ o, (literalExtractor.origins [0, 1])[0]? = some o := ⟨_, rfl⟩
  obtain ⟨e, he, hkeys⟩ := hlookup literalExtractor sampleSource [] "main" [0, 1] rfl
    result_build_sampleSource hnames (by decide +kernel) 0 o ho
  obtain ⟨l, hlinks, hid⟩ : ∃ l, e.links = [l] ∧ l.foreignKey = 0 := by
    have hlinks : ((literalExtractor.extract [0, 1]).state.entities.get? 0).map
        (·.links.map (·.foreignKey)) = some [0] := by decide +kernel
    rw [he] at hlinks
    exact List.map_eq_singleton_iff.1 (Option.some.inj hlinks)
  have hkinds : ∀ o' ∈ literalExtractor.origins [0, 1], ∀ v ∈ o'.row.cells,
      Literal.Kind.of? v ≠ none := by decide
  have hfloat : ∀ o' ∈ literalExtractor.origins [0, 1], ∀ i r, o'.cell? i ≠ some (.real r) := by
    intro o' ho' i r hcell
    obtain ⟨position, -, hcell⟩ := Option.bind_eq_some_iff.1 hcell
    exact hkinds o' ho' _ (List.mem_of_getElem? hcell) rfl
  have hcolumns : ∀ t ∈ sampleSchema.tables, ∀ c ∈ t.columns, c.dataType.code = .other := by decide
  have hl : l ∈ e.links := hlinks ▸ List.mem_singleton_self l
  obtain rfl := Option.some.inj ho
  have htold : ∀ k, literalExtractor.TellsCells [0, 1] k _ := fun k =>
    { column := by
        intro u hu p _ c hc
        rw [hcolumns u (List.mem_of_getElem? hu) c (List.mem_of_getElem? hc)]
        exact happart
      source_ne := fun p _ => hfloat _ (List.mem_of_getElem? ho) p.sourceIndex
      target_ne := fun o' ho' _ p _ => hfloat o' ho' p.targetIndex }
  obtain ⟨q, hq, hfound⟩ := hkeys _ (List.mem_of_getElem? (i := 0) rfl) (htold _) l hl hid
  refine ⟨e, l, q, he, hl, hq, (hfound .warn [] 2).2 ⟨⟨_, rfl, rfl, ?_⟩, ?_⟩⟩
  · exact List.forall_mem_cons.2 ⟨⟨.text "it", rfl, rfl, rfl⟩,
      List.forall_mem_cons.2 ⟨⟨.text "rome", rfl, rfl, rfl⟩, nofun⟩⟩
  -- the first two rows are visits, and the key leads to a city
  · rintro j hj ⟨o', ho', hrefers⟩
    have htable : ∀ j < 2, (literalExtractor.origins [0, 1])[j]?.map (·.table.id) = some 0 := by
      decide
    have hid := htable j hj
    rw [ho', Option.map_some, hrefers.table_eq] at hid
    exact absurd hid (by decide)

end Extractor

end FixturePlan
