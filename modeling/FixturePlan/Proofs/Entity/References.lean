import FixturePlan.Proofs.Entity.Join

/-!
# The links of a row, one for each key

The references of a table are named apart from each other: each has the name that the naming gives it,
or, where an earlier one has that already, the name with the least number that makes it different
(`Layout.namedApart_references`). So no link takes the place of another. A row has a required link for
each NOT NULL key, in the order of the keys, and an optional link for each other key that is complete
(`Extractor.linkedByReferences`).
-/

namespace FixturePlan

namespace Layout

/-! ### Names

The names of references are free by construction: each is chosen after those before it. -/

/-- The name of a reference is chosen after those of the references before it. -/
theorem name_eq_freshName {natural : ForeignKey → String} {taken : List String}
    {keys : List ForeignKey} {before after : List (ForeignKey × String)} {k : ForeignKey}
    {name : String} (h : nameReferences natural taken keys = before ++ (k, name) :: after) :
    name = freshName ((before.map (·.2)).reverse ++ taken) (natural k) := by
  induction before generalizing taken keys with
  | nil =>
    cases keys with
    | nil => cases h
    | cons key rest =>
      obtain ⟨hentry, -⟩ := List.cons.inj h
      obtain ⟨rfl, rfl⟩ := Prod.mk.inj hentry
      rfl
  | cons first before ih =>
    cases keys with
    | nil => cases h
    | cons key rest =>
      obtain ⟨rfl, hrest⟩ := List.cons.inj h
      rw [ih hrest, List.map_cons, List.reverse_cons, List.append_assoc, List.singleton_append]

/-- References that belong to some keys, each to one, and have names of their own. -/
structure NamedApart (natural : ForeignKey → String) (keys : List ForeignKey)
    (references : List (ForeignKey × String)) : Prop where
  keys_eq : references.map (·.1) = keys
  nodup : (references.map (·.2)).Nodup
  named : ∀ before k name after, references = before ++ (k, name) :: after →
    NamedAfter (before.map (·.2)) (natural k) name

theorem namedApart_references (s : Schema) (naming : Naming) (t : Table) :
    NamedApart (naming.referenceName s) (s.outgoing t) (ofTable s naming t).references where
  keys_eq := map_fst_references s naming t
  nodup := nodup_names_references s naming t
  named before k name after hsplit := by
    have hfresh := namedAfter_freshName (before.map (·.2)).reverse (naming.referenceName s k)
    rw [name_eq_freshName hsplit, List.append_nil]
    exact ⟨fun hfree => hfresh.eq_natural (by simpa using hfree),
      fun htaken => by simpa using hfresh.exists_number (by simpa using htaken)⟩

end Layout

/-- No column of a key is NULL in a row. -/
def Origin.isComplete (o : Origin) (k : ForeignKey) : Bool :=
  k.pairs.all fun p => (o.cell? p.sourceIndex).any (!·.isNull)

namespace Extractor

variable (x : Extractor)

/-! ### Links

A row attaches a link for each of its references, under the name of the reference. -/

/-- The references of a table. -/
abbrev references (t : Table) : List (ForeignKey × String) :=
  (Layout.ofTable x.schema x.strategies.naming t).references

/-- The links of an entity are those of the references of its row: of every NOT NULL key, in order, and
of every nullable key that is complete. -/
structure LinkedByReferences (o : Origin) (e : Entity) : Prop where
  required : e.required.map (fun l => (l.foreignKey, l.name)) =
    ((x.references o.table).filter fun r => !r.1.nullable).map fun r => (r.1.id, r.2)
  optional : (e.optional.values.map fun l => (l.foreignKey, l.name)).Perm
    (((x.references o.table).filter fun r => r.1.nullable && o.isComplete r.1).map
      fun r => (r.1.id, r.2))
  name_eq : ∀ name l, e.optional.find? name = some l → l.name = name

/-- What becomes of a reference: a link under its name, unless its key is nullable and incomplete. -/
def Attached (o : Origin) (r : ForeignKey × String) (link : Option Link) : Prop :=
  ∃ target, link = if r.1.nullable && !o.isComplete r.1 then none else some ⟨r.2, r.1.id, target⟩

section Row

variable {x} (hs : x.schema.WellFormed) {o : Origin}

include hs in
theorem isComplete_eq {k : ForeignKey} (hk : k ∈ x.schema.foreignKeys)
    {found : List (Option (String × Token))} (hfound : x.sought o k = .ok found) :
    o.isComplete k = !found.any (·.isNone) := by
  obtain ⟨source, target, hj⟩ := hs.exists_joins k hk
  have hnone : found.any (·.isNone) = true ↔
      ∃ p ∈ k.pairs, ∃ cell, o.cell? p.sourceIndex = some cell ∧ cell.isNull = true := by
    rw [← none_mem_sought_iff hs hk hj.target_eq hfound]
    simp
  rw [Bool.eq_iff_iff, Bool.not_eq_true', ← Bool.not_eq_true, hnone, Origin.isComplete,
    List.all_eq_true]
  constructor
  · rintro hall ⟨p, hp, cell, hcell, hnull⟩
    have hp := hall p hp
    rw [hcell] at hp
    simp [hnull] at hp
  · intro hfree p hp
    obtain ⟨v, hv⟩ := Extract.exists_of_mapOk hfound hp
    obtain ⟨cell, hcell, -⟩ := Extract.keyValue_eq_ok_iff.1 hv
    have hcell : o.cell? p.sourceIndex = some cell := Extract.read_eq_ok_iff.1 hcell
    rw [hcell, Option.any_some, Bool.not_eq_true', ← Bool.not_eq_true]
    exact fun hnull => hfree ⟨p, hp, cell, hcell, hnull⟩

include hs in
theorem attached_of_reference {r : ForeignKey × String} (hr : r ∈ x.references o.table)
    {link : Option Link}
    (h : Extract.reference x.schema x.strategies
      (.ofTable x.schema x.strategies.naming o.table) o.columns o.row r = .ok link) :
    Attached o r link := by
  have hout := Layout.mem_outgoing_of_mem_references x.schema x.strategies.naming o.table hr
  obtain ⟨i, -, hi⟩ := List.mem_filterMap.1 hout
  obtain ⟨found, hfound, rfl⟩ := Extract.reference_eq_ok_iff.1 h
  refine ⟨.placeholder ⟨r.1.target, r.1.id, found.filterMap id⟩, ?_⟩
  rw [isComplete_eq hs (List.mem_of_getElem? hi) hfound, Bool.not_not]

variable {rs : List (ForeignKey × String)} {found : List (Option Link)}
  (hattached : List.Forall₂ (Attached o) rs found)

include hattached

theorem map_requiredLinks : (Extract.requiredLinks (rs.zip found)).map
      (fun l => (l.foreignKey, l.name)) =
    (rs.filter fun r => !r.1.nullable).map fun r => (r.1.id, r.2) := by
  induction hattached with
  | nil => rfl
  | @cons r link rs found hr _ ih =>
    obtain ⟨target, rfl⟩ := hr
    rw [Extract.requiredLinks] at ih ⊢
    cases hnullable : r.1.nullable <;> simp [hnullable, ih]

/-- The entries of which the optional links of a row are made. -/
abbrev optionalEntries (links : List ((ForeignKey × String) × Option Link)) :
    List (String × Link) :=
  links.filterMap fun (entry, link) =>
    if entry.1.nullable then link.map fun l => (l.name, l) else none

theorem map_optionalEntries : (optionalEntries (rs.zip found)).map
      (fun entry => (entry.1, entry.2.foreignKey, entry.2.name)) =
    (rs.filter fun r => r.1.nullable && o.isComplete r.1).map fun r => (r.2, r.1.id, r.2) := by
  induction hattached with
  | nil => rfl
  | @cons r link rs found hr _ ih =>
    obtain ⟨target, rfl⟩ := hr
    rw [optionalEntries] at ih ⊢
    cases hnullable : r.1.nullable <;> cases hcomplete : o.isComplete r.1 <;>
      simp [hnullable, hcomplete, ih]

end Row

/-- Each key of the table of a row gets the link that it calls for. -/
theorem linkedByReferences {x : Extractor} (hs : x.schema.WellFormed) {o : Origin} {e : Entity}
    (he : x.entityOf o = .ok e) : x.LinkedByReferences o e := by
  have hnodup := Layout.nodup_names_references x.schema x.strategies.naming o.table
  have hname_eq : ∀ name l, e.optional.find? name = some l → l.name = name := by
    intro name l hl
    obtain ⟨r, -, -, rfl, hlink⟩ := (Extract.find?_optional_of_entity hnodup he).1 hl
    obtain ⟨-, -, -, rfl⟩ := Extract.reference_eq_ok_some_iff.1 hlink
    rfl
  obtain ⟨_, found, _, -, hfound, -, rfl⟩ := Extract.entity_eq_ok_iff.1 he
  have hattached : List.Forall₂ (Attached o) (x.references o.table) found := by
    have hmem := (List.forall₂_and_left _ _).2 ⟨fun r hr => hr, Extract.mapOk_eq_ok_iff.1 hfound⟩
    exact hmem.imp fun r link h => attached_of_reference hs h.1 h.2
  refine ⟨map_requiredLinks hattached, ?_, hname_eq⟩
  -- the entries have the names of their references, so that no entry takes the place of another
  have hentries := map_optionalEntries hattached
  have hkeys : ((optionalEntries ((x.references o.table).zip found)).map (·.1)).Nodup := by
    have hfst := congrArg (List.map (·.1)) hentries
    rw [List.map_map, List.map_map] at hfst
    exact hfst ▸ hnodup.sublist (List.filter_sublist.map _)
  have hlinks := congrArg (List.map (·.2)) hentries
  rw [List.map_map, List.map_map] at hlinks
  have hperm := (SortedMap.perm_values_ofList hkeys).map fun l => (l.foreignKey, l.name)
  rw [List.map_map] at hperm
  exact hperm.trans (List.Perm.of_eq hlinks)

/-- The references of a table are named apart, and the links of its rows are those of its references. -/
theorem references_apart (t : Table) :
    Layout.NamedApart (x.strategies.naming.referenceName x.schema) (x.schema.outgoing t)
        (x.references t) ∧
      (x.schema.WellFormed → ∀ o e, o.table = t → x.entityOf o = .ok e →
        x.LinkedByReferences o e) := by
  refine ⟨Layout.namedApart_references x.schema x.strategies.naming t, ?_⟩
  rintro hs o e - he
  exact linkedByReferences hs he

/-! ### A sample

A stay has three keys to stays. The first and the last are named `stay`, and the one between them has the
name that the number 2 would give. -/

/-- Stays, of which one is at itself and has one before it. -/
def staySource : Source where
  listTables _ := .ok [.table "main" "stay"]
  columns _ := .ok ([("id", false), ("at", false), ("next", true), ("last", true)].map fun c =>
    ⟨some c.1, 0, "integer", TypeCode.other, c.2, false, none, none⟩)
  primaryKey _ := .ok []
  importedKeys _ := .ok []
  vendor _ := .ok ∅
  scan _ _ _ := .ok ⟨[[⟨["id", "at", "next", "last"],
    [.integer 1, .integer 1, .null, .integer 1]⟩]], none⟩

/-- The table of stays without its keys. -/
def stayTable : Table where
  id := 0
  name := ⟨"main", "stay"⟩
  columns := [("id", false), ("at", false), ("next", true), ("last", true)].map fun c =>
    ⟨c.1, ⟨"integer", TypeCode.other, c.2, none, none⟩, c.2, false⟩
  primaryKey := []
  outgoing := []
  incoming := []

/-- A key from a column of a stay to another stay. -/
def stayKey (name column : String) : KeySpec :=
  ⟨name, ⟨"main", "stay"⟩, ⟨"main", "stay"⟩, [⟨1, column, "id"⟩]⟩

theorem result_build_staySource : (Schema.build staySource [] "main").result =
    .ok { Schema.empty "main" with tables := [stayTable] } := by
  refine Schema.result_build_eq_ok_iff.2 ⟨_, [stayTable], _, ∅, rfl, by decide, ?_, rfl, rfl, rfl⟩
  refine Report.result_mapList_eq_ok_iff.2 (.cons ?_ .nil)
  refine Schema.result_loadTable_eq_ok_iff.2 ⟨_, [], rfl, ?_, rfl⟩
  exact Schema.result_loadPrimaryKey_eq_ok_iff.2 ⟨[], rfl, by rw [List.mergeSort_nil]; rfl⟩

/-- What extracts the stays. -/
def stayExtractor : Extractor where
  schema := ({ Schema.empty "main" with tables := [stayTable] }.attach
    [stayKey "stay" "at", stayKey "stay2" "next", stayKey "stay" "last"]).state.schema
  source := staySource
  strategies := ⟨.verbatim, fun _ => "", fun cell _ _ _ => ⟨cell.shown⟩⟩
  fetchSize := 1

theorem references_apart_sample :
    ∃ o ∈ stayExtractor.origins [0], ∃ e, stayExtractor.entityOf o = .ok e ∧
      (stayExtractor.references o.table).map (·.2) = ["stay", "stay2", "stay3"] ∧
      e.required.map (fun l => (l.foreignKey, l.name)) = [(0, "stay")] ∧
      e.optional.values.map (fun l => (l.foreignKey, l.name)) = [(2, "stay3")] := by
  obtain ⟨o, ho, e, he, hnames, hrequired, hoptional⟩ : ∃ o ∈ stayExtractor.origins [0], ∃ e,
      stayExtractor.entityOf o = .ok e ∧
        (stayExtractor.references o.table).map (·.2) = ["stay", "stay2", "stay3"] ∧
        ((stayExtractor.references o.table).filter fun r => !r.1.nullable).map
          (fun r => (r.1.id, r.2)) = [(0, "stay")] ∧
        ((stayExtractor.references o.table).filter fun r => r.1.nullable && o.isComplete r.1).map
          (fun r => (r.1.id, r.2)) = [(2, "stay3")] :=
    ⟨_, List.mem_of_getElem? (i := 0) rfl, _, rfl, by decide, by decide, by decide⟩
  have hs : stayExtractor.schema.WellFormed :=
    Schema.wellFormed_attach (Schema.wellFormed_of_build result_build_staySource) _
  have hlinked := (stayExtractor.references_apart o.table).2 hs o e rfl he
  refine ⟨o, ho, e, he, hnames, hlinked.required.trans hrequired, ?_⟩
  exact List.perm_singleton.1 (hoptional ▸ hlinked.optional)

end Extractor

end FixturePlan
