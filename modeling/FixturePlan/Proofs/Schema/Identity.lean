import FixturePlan.Proofs.Schema.Listing

/-!
# Keys that are the same

Two keys, of one schema or of two, are the same key if and only if they have the same names and their
tables have the columns of the key at the same places (`Schema.same_iff_of_build`). The numbers of keys
and tables play no part, nor does NULL. Within a schema the names alone decide
(`Schema.WellFormed.same_iff_sameNames`); between two schemas they do not, since a table may list its
columns in another order (`Schema.exists_same_names_only`).
-/

namespace FixturePlan

/-- The names of the two columns of a pair. -/
def KeyPair.names (p : KeyPair) : String × String := (p.sourceColumn, p.targetColumn)

/-- Two keys have the same names: their own, those of their tables, and pair by pair those of their
columns. -/
structure ForeignKey.SameNames (k k' : ForeignKey) : Prop where
  name_eq : k.name = k'.name
  sourceTable_eq : k.sourceTable = k'.sourceTable
  targetTable_eq : k.targetTable = k'.targetTable
  columns_eq : k.pairs.map KeyPair.names = k'.pairs.map KeyPair.names

/-- Two tables have the columns of some names at the same places. -/
def Table.AgreeOn (t t' : Table) (names : List String) : Prop :=
  ∀ name ∈ names, t.columnIndex? name = t'.columnIndex? name

namespace ForeignKey

variable {k k' : ForeignKey}

theorem same_iff : k.same k' = true ↔ k.name = k'.name ∧ k.sourceTable = k'.sourceTable ∧
    k.targetTable = k'.targetTable ∧ k.pairs = k'.pairs := by
  rw [same, beq_iff_eq, identity, identity, Identity.mk.injEq]

theorem hash_eq_of_same (h : k.same k' = true) : k.hash = k'.hash := by
  rw [hash, hash, beq_iff_eq.1 h]

end ForeignKey

namespace Schema

variable {s s' : Schema} {k k' : ForeignKey} {t u t' u' : Table}

/-- Pairs that have the same names, in tables that agree on these, have the same places. -/
theorem pairs_eq_of_agreeOn {pairs pairs' : List KeyPair}
    (hpairs : ∀ p ∈ pairs, t.columnIndex? p.sourceColumn = some p.sourceIndex ∧
      u.columnIndex? p.targetColumn = some p.targetIndex)
    (hpairs' : ∀ p ∈ pairs', t'.columnIndex? p.sourceColumn = some p.sourceIndex ∧
      u'.columnIndex? p.targetColumn = some p.targetIndex)
    (hnames : pairs.map KeyPair.names = pairs'.map KeyPair.names)
    (hsources : t.AgreeOn t' (pairs.map (·.sourceColumn)))
    (htargets : u.AgreeOn u' (pairs.map (·.targetColumn))) : pairs = pairs' := by
  -- on the pairs of both sides together, which have the same names
  induction pairs generalizing pairs' with
  | nil => exact (List.map_eq_nil_iff.1 hnames.symm).symm
  | cons p rest ih =>
    cases pairs' with
    | nil => cases hnames
    | cons p' rest' =>
      obtain ⟨⟨hsource, htarget⟩, hrest⟩ := List.forall_mem_cons.1 hpairs
      obtain ⟨⟨hsource', htarget'⟩, hrest'⟩ := List.forall_mem_cons.1 hpairs'
      obtain ⟨hsourceAgree, hsourcesRest⟩ := List.forall_mem_cons.1 hsources
      obtain ⟨htargetAgree, htargetsRest⟩ := List.forall_mem_cons.1 htargets
      obtain ⟨hname, hothers⟩ := List.cons.inj hnames
      obtain ⟨sourceColumn, targetColumn, i, j⟩ := p
      obtain ⟨sourceColumn', targetColumn', i', j'⟩ := p'
      obtain ⟨rfl, rfl⟩ := Prod.mk.inj hname
      obtain rfl := Option.some.inj (hsource.symm.trans (hsourceAgree.trans hsource'))
      obtain rfl := Option.some.inj (htarget.symm.trans (htargetAgree.trans htarget'))
      rw [ih hrest hrest' hothers hsourcesRest htargetsRest]

/-- Keys between tables are the same if and only if their names are, and the tables agree on the
columns of the key. -/
theorem Joins.same_iff (h : s.Joins k t u) (h' : s'.Joins k' t' u') :
    k.same k' = true ↔ k.SameNames k' ∧ t.AgreeOn t' (k.pairs.map (·.sourceColumn)) ∧
      u.AgreeOn u' (k.pairs.map (·.targetColumn)) := by
  rw [ForeignKey.same_iff]
  constructor
  · rintro ⟨hname, hsource, htarget, hpairs⟩
    refine ⟨⟨hname, hsource, htarget, by rw [hpairs]⟩, ?_, ?_⟩
    · intro column hcolumn
      obtain ⟨p, hp, rfl⟩ := List.mem_map.1 hcolumn
      exact (h.pairs p hp).1.trans (h'.pairs p (hpairs ▸ hp)).1.symm
    · intro column hcolumn
      obtain ⟨p, hp, rfl⟩ := List.mem_map.1 hcolumn
      exact (h.pairs p hp).2.trans (h'.pairs p (hpairs ▸ hp)).2.symm
  · rintro ⟨⟨hname, hsource, htarget, hcolumns⟩, hsources, htargets⟩
    exact ⟨hname, hsource, htarget,
      pairs_eq_of_agreeOn h.pairs h'.pairs hcolumns hsources htargets⟩

/-- Within a schema keys are known by their names. -/
theorem WellFormed.same_iff_sameNames (hs : s.WellFormed) (hk : k ∈ s.foreignKeys)
    (hk' : k' ∈ s.foreignKeys) : k.same k' = true ↔ k.SameNames k' := by
  obtain ⟨t, u, hj⟩ := hs.exists_joins k hk
  obtain ⟨t', u', hj'⟩ := hs.exists_joins k' hk'
  rw [hj.same_iff hj', and_iff_left_iff_imp]
  -- tables of one name are one table
  have htable : ∀ {i i' : TableId} {v v' : Table}, s.table? i = some v → s.table? i' = some v' →
      v.name = v'.name → v = v' := by
    intro i i' v v' hv hv' hname
    have hfound := hs.find?_eq_some_iff.2 ⟨v, hv, hname⟩
    rw [hs.find?_eq_some_iff.2 ⟨v', hv', rfl⟩] at hfound
    obtain rfl := Option.some.inj hfound
    exact Option.some.inj (hv.symm.trans hv')
  intro hnames
  obtain rfl := htable hj.source_eq hj'.source_eq
    (hj.sourceTable_eq.symm.trans (hnames.sourceTable_eq.trans hj'.sourceTable_eq))
  obtain rfl := htable hj.target_eq hj'.target_eq
    (hj.targetTable_eq.symm.trans (hnames.targetTable_eq.trans hj'.targetTable_eq))
  exact ⟨fun _ _ => rfl, fun _ _ => rfl⟩

/-- Keys of two built schemas are the same, and then have the same hash, if and only if their names are
the same and the tables that they join have the columns of the key at the same places. -/
theorem same_iff_of_build {source source' : Source} {exclude exclude' : List Text.Pattern}
    {name name' : String} (hs : (build source exclude name).result = .ok s)
    (hs' : (build source' exclude' name').result = .ok s') (hk : k ∈ s.foreignKeys)
    (hk' : k' ∈ s'.foreignKeys) :
    (k.same k' = true → k.hash = k'.hash) ∧
    ∃ t u t' u', s.Joins k t u ∧ s'.Joins k' t' u' ∧
      (k.same k' = true ↔ k.SameNames k' ∧ t.AgreeOn t' (k.pairs.map (·.sourceColumn)) ∧
        u.AgreeOn u' (k.pairs.map (·.targetColumn))) := by
  obtain ⟨t, u, hj⟩ := (wellFormed_of_build hs).exists_joins k hk
  obtain ⟨t', u', hj'⟩ := (wellFormed_of_build hs').exists_joins k' hk'
  exact ⟨ForeignKey.hash_eq_of_same, t, u, t', u', hj, hj', hj.same_iff hj'⟩

end Schema

/-! ### A sample

Nodes with a parent. What else a node has, and in which order, differs from schema to schema. -/

namespace Description

/-- The table of nodes. -/
def nodeTable : TableInfo := .table "main" "node"

/-- The key from a node to its parent. -/
def nodeKey : KeySpec := ⟨"within", ⟨"main", "node"⟩, ⟨"main", "node"⟩, [⟨1, "parent", "id"⟩]⟩

/-- Nodes with some columns in some order. -/
def nodes (columns : List String) : Description where
  name := "main"
  columns _ := columns.map fun name =>
    ⟨some name, 0, "integer", TypeCode.other, true, false, none, none⟩
  primaryKey _ := []
  importedKeys _ := [⟨"within", 1, "parent", "main", "node", "id", 1⟩]
  vendor := ∅

variable {columns : List String}

theorem keys_nodes : (nodes columns).keys nodeTable = [nodeKey] := by
  simp [keys, nodes, nodeTable, TableInfo.table, KeySpec.aggregate, KeySpec.addRow, KeySpec.nameOf,
    KeySpec.pairOf, KeySpec.ordered, nodeKey]

variable (columns) in
theorem exists_built_nodes (hid : "id" ∈ columns) (hparent : "parent" ∈ columns) :
    ∃ s, (Schema.build ((nodes columns).source [nodeTable]) [] "main").result = .ok s ∧
      (∀ t ∈ s.tables, (nodes columns).TableBuilt nodeTable t) ∧
      ∃ k, s.foreignKeys = [k] ∧ (nodes columns).KeyBetween nodeTable nodeTable nodeKey k := by
  have hcolumn : ∀ name ∈ columns, (nodes columns).HasColumn nodeTable name := by
    intro name hname
    exact ⟨_, List.mem_map_of_mem hname, rfl⟩
  have hsound : (nodes columns).Sound [nodeTable] := by
    refine ⟨by decide, nofun, ?_⟩
    rw [List.forall_mem_singleton, keys_nodes, List.forall_mem_singleton]
    refine List.forall_mem_singleton.2 fun _ => List.forall_mem_singleton.2 ?_
    exact ⟨hcolumn _ hparent, hcolumn _ hid⟩
  have hsays := says_source (nodes columns) [] [nodeTable]
  obtain ⟨s, hs⟩ := (Schema.exists_build_iff hsays).2 hsound
  have hinto : (nodes columns).keysInto [nodeTable] [nodeTable] = [nodeKey] := by
    rw [keysInto, List.flatMap_singleton, keys_nodes]
    rfl
  obtain ⟨-, -, htables, hkeys⟩ := Schema.built_of_build hsays hs
  rw [show Schema.kept [] [nodeTable] = [nodeTable] from rfl, hinto,
    List.forall₂_cons_left_iff] at hkeys
  obtain ⟨k, rest, ⟨info, hinfo, target, htarget, -, -, hk⟩, hrest, hforeign⟩ := hkeys
  obtain rfl := List.mem_singleton.1 hinfo
  obtain rfl := List.mem_singleton.1 htarget
  obtain rfl := List.forall₂_nil_left_iff.1 hrest
  refine ⟨s, hs, fun t ht => ?_, k, hforeign, hk⟩
  obtain ⟨i, hi⟩ := List.mem_iff_getElem?.1 ht
  obtain ⟨info, hinfo, hbuilt⟩ := exists_getElem?_of_forall₂ htables.flip hi
  obtain rfl := List.mem_singleton.1 (List.mem_of_getElem? hinfo)
  exact hbuilt

theorem KeyBetween.pairs_nodeKey {k : ForeignKey}
    (h : (nodes columns).KeyBetween nodeTable nodeTable nodeKey k) :
    ∃ p, k.pairs = [p] ∧ p.names = ("parent", "id") ∧
      (nodes columns).position? nodeTable "parent" = some p.sourceIndex := by
  obtain ⟨p, rest, hp, hrest, hpairs⟩ := List.forall₂_cons_left_iff.1 h.pairs
  obtain rfl := List.forall₂_nil_left_iff.1 hrest
  exact ⟨p, hpairs, Prod.ext hp.sourceColumn_eq hp.targetColumn_eq, hp.sourceIndex_eq⟩

/-- The keys of nodes have the same names, whatever the columns. -/
theorem sameNames_nodes {columns' : List String} {k k' : ForeignKey}
    (h : (nodes columns).KeyBetween nodeTable nodeTable nodeKey k)
    (h' : (nodes columns').KeyBetween nodeTable nodeTable nodeKey k') : k.SameNames k' := by
  obtain ⟨p, hpairs, hnames, -⟩ := h.pairs_nodeKey
  obtain ⟨p', hpairs', hnames', -⟩ := h'.pairs_nodeKey
  refine ⟨h.name_eq.trans h'.name_eq.symm, h.sourceTable_eq.trans h'.sourceTable_eq.symm,
    h.targetTable_eq.trans h'.targetTable_eq.symm, ?_⟩
  rw [hpairs, hpairs', List.map_singleton, List.map_singleton, hnames, hnames']

end Description

namespace Schema

open Description (nodes nodeTable exists_built_nodes sameNames_nodes)

/-- A further column at the end makes no difference to a key. -/
theorem same_iff_of_build_sample :
    ∃ s s' k k', (build ((nodes ["id", "parent"]).source [nodeTable]) [] "main").result = .ok s ∧
      (build ((nodes ["id", "parent", "note"]).source [nodeTable]) [] "main").result = .ok s' ∧
      k ∈ s.foreignKeys ∧ k' ∈ s'.foreignKeys ∧ k.same k' = true ∧ k.hash = k'.hash := by
  obtain ⟨s, hs, htables, k, hkeys, hk⟩ :=
    exists_built_nodes ["id", "parent"] (by decide) (by decide)
  obtain ⟨s', hs', htables', k', hkeys', hk'⟩ :=
    exists_built_nodes ["id", "parent", "note"] (by decide) (by decide)
  have hmem : k ∈ s.foreignKeys := hkeys ▸ List.mem_singleton_self k
  have hmem' : k' ∈ s'.foreignKeys := hkeys' ▸ List.mem_singleton_self k'
  obtain ⟨hhash, t, u, t', u', hj, hj', hiff⟩ := same_iff_of_build hs hs' hmem hmem'
  -- both sources list the two columns first, so that they stand in the same places
  have hagree : ∀ {v v' : Table} {i i' : TableId}, s.table? i = some v → s'.table? i' = some v' →
      ∀ column ∈ ["parent", "id"], v.columnIndex? column = v'.columnIndex? column := by
    intro v v' i i' hv hv' column hcolumn
    rw [(htables v (List.mem_of_getElem? hv)).columnIndex?_eq,
      (htables' v' (List.mem_of_getElem? hv')).columnIndex?_eq]
    revert column
    decide
  obtain ⟨p, hpairs, hnames, -⟩ := hk.pairs_nodeKey
  obtain ⟨hsource, htarget⟩ := Prod.mk.inj hnames
  have hsame : k.same k' = true := by
    refine hiff.2 ⟨sameNames_nodes hk hk', ?_, ?_⟩
    · rw [hpairs, List.map_singleton, hsource]
      exact List.forall_mem_singleton.2 (hagree hj.source_eq hj'.source_eq "parent" (by decide))
    · rw [hpairs, List.map_singleton, htarget]
      exact List.forall_mem_singleton.2 (hagree hj.target_eq hj'.target_eq "id" (by decide))
  exact ⟨s, s', k, k', hs, hs', hmem, hmem', hsame, hhash hsame⟩

/-- If a table lists its columns in another order, a key of the same names is another key. -/
theorem exists_same_names_only :
    ∃ s s' k k', (build ((nodes ["id", "parent"]).source [nodeTable]) [] "main").result = .ok s ∧
      (build ((nodes ["parent", "id"]).source [nodeTable]) [] "main").result = .ok s' ∧
      k ∈ s.foreignKeys ∧ k' ∈ s'.foreignKeys ∧ k.SameNames k' ∧ k.same k' = false := by
  obtain ⟨s, hs, -, k, hkeys, hk⟩ :=
    exists_built_nodes ["id", "parent"] (by decide) (by decide)
  obtain ⟨s', hs', -, k', hkeys', hk'⟩ :=
    exists_built_nodes ["parent", "id"] (by decide) (by decide)
  refine ⟨s, s', k, k', hs, hs', hkeys ▸ List.mem_singleton_self k,
    hkeys' ▸ List.mem_singleton_self k', sameNames_nodes hk hk', ?_⟩
  obtain ⟨p, hpairs, -, hplace⟩ := hk.pairs_nodeKey
  obtain ⟨p', hpairs', -, hplace'⟩ := hk'.pairs_nodeKey
  refine Bool.eq_false_iff.2 fun hsame => ?_
  -- the parent is the second column of one schema and the first of the other
  obtain ⟨-, -, -, heq⟩ := ForeignKey.same_iff.1 hsame
  rw [hpairs, hpairs', List.singleton_inj] at heq
  rw [heq, ← hplace'] at hplace
  exact absurd hplace (by decide)

end Schema

end FixturePlan
