import FixturePlan.Proofs.Schema.Description

/-!
# Tables listed in another order

Apart from numbers, a table and a key of a built schema depend on what is described and not on the place
of the table in the list (`Description.TableBuilt.unnumbered_eq`, `Description.KeyBuilt.unnumbered_eq`).
If the same tables are listed in another order, a build succeeds as before, and the schema is the same
but for numbers and order (`Schema.build_as_described`): a key is attached no matter which of its two
tables comes first, and also if they are one table.
-/

namespace FixturePlan

/-- Lists that are related element by element to the same elements in different orders, where the
relation decides what a function makes of an element. -/
theorem perm_map_of_forall₂ {α β γ : Type} {R : α → β → Prop} {f : β → γ}
    (hunique : ∀ a b b', R a b → R a b' → f b = f b') {as as' : List α} {bs bs' : List β}
    (h : List.Forall₂ R as bs) (h' : List.Forall₂ R as' bs') (hperm : as'.Perm as) :
    (bs'.map f).Perm (bs.map f) := by
  have hright : Relator.RightUnique fun a c => ∃ b, R a b ∧ f b = c := by
    rintro a _ _ ⟨b, hb, rfl⟩ ⟨b', hb', rfl⟩
    exact hunique a b b' hb hb'
  have hmap : ∀ {as bs}, List.Forall₂ R as bs →
      List.Forall₂ (fun a c => ∃ b, R a b ∧ f b = c) as (bs.map f) := by
    intro as bs hrel
    rw [List.forall₂_map_right_iff]
    exact hrel.imp fun a b hab => ⟨b, hab, rfl⟩
  exact List.rel_perm_imp hright (hmap h') (hmap h) hperm

/-- A foreign key apart from its number and those of its tables. -/
def ForeignKey.unnumbered (k : ForeignKey) : ForeignKey := { k with id := 0, source := 0, target := 0 }

namespace Description

variable {d : Description} {info target : TableInfo} {infos infos' : List TableInfo} {spec : KeySpec}

/-! ### What the description decides

Two tables or keys built from one description agree but for numbers. -/

theorem TableBuilt.unnumbered_eq {t u : Table} (h : d.TableBuilt info t)
    (h' : d.TableBuilt info u) : t.unnumbered = u.unnumbered := by
  obtain ⟨hname, hcolumns, key, hsorted, hpositions⟩ := h
  obtain ⟨hname', hcolumns', key', hsorted', hpositions'⟩ := h'
  obtain rfl := hsorted.eq hsorted'
  have hkey : t.primaryKey = u.primaryKey := by
    refine Relator.RightUnique.forall₂ ?_ hpositions hpositions'
    intro k i j hi hj
    exact Option.some.inj (hi.symm.trans hj)
  rw [Table.unnumbered, Table.unnumbered, hname, hname', hcolumns, hcolumns', hkey]

theorem PairBuilt.eq {pair : PairSpec} {p q : KeyPair} (h : d.PairBuilt info target pair p)
    (h' : d.PairBuilt info target pair q) : p = q := by
  obtain ⟨sourceColumn, targetColumn, sourceIndex, targetIndex⟩ := p
  obtain ⟨rfl, rfl, hi, hj⟩ := h
  obtain ⟨sourceColumn', targetColumn', sourceIndex', targetIndex'⟩ := q
  obtain ⟨rfl, rfl, hi', hj'⟩ := h'
  obtain rfl := Option.some.inj (hi.symm.trans hi')
  obtain rfl := Option.some.inj (hj.symm.trans hj')
  rfl

theorem KeyBetween.unnumbered_eq {k k' : ForeignKey} (h : d.KeyBetween info target spec k)
    (h' : d.KeyBetween info target spec k') : k.unnumbered = k'.unnumbered := by
  have hpairs : k.pairs = k'.pairs := by
    refine Relator.RightUnique.forall₂ ?_ h.pairs h'.pairs
    intro pair p q hp hq
    exact hp.eq hq
  have hnullable : k.nullable = k'.nullable := by
    rw [Bool.eq_iff_iff, h.nullable_iff, h'.nullable_iff, hpairs]
  rw [ForeignKey.unnumbered, ForeignKey.unnumbered, h.name_eq, h'.name_eq, h.sourceTable_eq,
    h'.sourceTable_eq, h.targetTable_eq, h'.targetTable_eq, hpairs, hnullable]

theorem KeyBuilt.unnumbered_eq (hnodup : (infos.map Schema.qualified).Nodup) {k k' : ForeignKey}
    (h : d.KeyBuilt infos spec k) (h' : d.KeyBuilt infos spec k') : k.unnumbered = k'.unnumbered := by
  obtain ⟨info, hinfo, target, htarget, hsource, hname, hk⟩ := h
  obtain ⟨info', hinfo', target', htarget', hsource', hname', hk'⟩ := h'
  obtain rfl := List.inj_on_of_nodup_map hnodup hinfo hinfo' (hsource.trans hsource'.symm)
  obtain rfl := List.inj_on_of_nodup_map hnodup htarget htarget' (hname.trans hname'.symm)
  exact hk.unnumbered_eq hk'

/-! ### Permuted tables

Whether a description is sound, and which keys it has between some tables, does not depend on the order of
the tables. -/

section Perm

variable (hperm : infos'.Perm infos)

include hperm

theorem Sound.perm (h : d.Sound infos) : d.Sound infos' where
  nodup := (hperm.map Schema.qualified).nodup_iff.2 h.nodup
  primaryKey info hinfo := h.primaryKey info (hperm.mem_iff.1 hinfo)
  foreignKeys info hinfo spec hspec target htarget :=
    h.foreignKeys info (hperm.mem_iff.1 hinfo) spec hspec target (hperm.mem_iff.1 htarget)

theorem KeyBuilt.perm {k : ForeignKey} (h : d.KeyBuilt infos' spec k) : d.KeyBuilt infos spec k := by
  obtain ⟨info, hinfo, target, htarget, hk⟩ := h
  exact ⟨info, hperm.mem_iff.1 hinfo, target, hperm.mem_iff.1 htarget, hk⟩

theorem perm_keysInto (d : Description) :
    (d.keysInto infos' infos').Perm (d.keysInto infos infos) := by
  have hmem : ∀ name, name ∈ infos'.map Schema.qualified ↔ name ∈ infos.map Schema.qualified :=
    fun name => (hperm.map Schema.qualified).mem_iff
  simp only [keysInto, hmem]
  exact (hperm.flatMap_right d.keys).filter _

end Perm

end Description

namespace Schema

/-! ### Schemas that differ in numbers

Tables in another order get other numbers. Told by names instead, both schemas have the same tables and
keys. -/

/-- Two schemas have the same tables and keys between them, in orders of their own. -/
structure SameButOrder (s s' : Schema) : Prop where
  name_eq : s'.name = s.name
  vendor_eq : s'.vendor = s.vendor
  tables : (s'.tables.map Table.unnumbered).Perm (s.tables.map Table.unnumbered)
  foreignKeys : (s'.foreignKeys.map ForeignKey.unnumbered).Perm
    (s.foreignKeys.map ForeignKey.unnumbered)
  outgoing : ∀ t ∈ s.tables, ∀ t' ∈ s'.tables, t'.name = t.name →
    ((s'.outgoing t').map ForeignKey.unnumbered).Perm ((s.outgoing t).map ForeignKey.unnumbered)
  incoming : ∀ t ∈ s.tables, ∀ t' ∈ s'.tables, t'.name = t.name →
    ((s'.incoming t').map ForeignKey.unnumbered).Perm ((s.incoming t).map ForeignKey.unnumbered)

namespace WellFormed

variable {s : Schema} (h : s.WellFormed) {t : Table} (ht : t ∈ s.tables)

include h ht

/-- Numbers and names tell the same tables apart. -/
theorem id_eq_iff {u : Table} (hu : u ∈ s.tables) : u.id = t.id ↔ u.name = t.name := by
  constructor
  · intro hid
    have htable := h.table?_id hu
    rw [hid, h.table?_id ht] at htable
    rw [Option.some.inj htable]
  · intro hname
    have hfound := h.find?_name u hu
    rw [hname, h.find?_name t ht] at hfound
    exact (Option.some.inj hfound).symm

/-- The keys that leave a table are those that leave a table of its name. -/
theorem map_unnumbered_outgoing : (s.outgoing t).map ForeignKey.unnumbered =
    (s.foreignKeys.map ForeignKey.unnumbered).filter (·.sourceTable = t.name) := by
  rw [h.outgoing ht, List.filter_map]
  refine congrArg _ (List.filter_congr ?_)
  intro k hk
  obtain ⟨source, target, hj⟩ := h.exists_joins k hk
  show decide (k.source = t.id) = decide (k.sourceTable = t.name)
  rw [decide_eq_decide, hj.sourceTable_eq, ← h.table_id _ _ hj.source_eq]
  exact h.id_eq_iff ht (mem_tables_iff.2 ⟨_, hj.source_eq⟩)

/-- The keys that lead to a table are those that lead to a table of its name. -/
theorem map_unnumbered_incoming : (s.incoming t).map ForeignKey.unnumbered =
    (s.foreignKeys.map ForeignKey.unnumbered).filter (·.targetTable = t.name) := by
  rw [h.incoming ht, List.filter_map]
  refine congrArg _ (List.filter_congr ?_)
  intro k hk
  obtain ⟨source, target, hj⟩ := h.exists_joins k hk
  show decide (k.target = t.id) = decide (k.targetTable = t.name)
  rw [decide_eq_decide, hj.targetTable_eq, ← h.table_id _ _ hj.target_eq]
  exact h.id_eq_iff ht (mem_tables_iff.2 ⟨_, hj.target_eq⟩)

end WellFormed

theorem sameButOrder_of_built {d : Description} {infos infos' : List TableInfo} {s s' : Schema}
    (hs : s.WellFormed) (hs' : s'.WellFormed) (hnodup : (infos.map qualified).Nodup)
    (hperm : infos'.Perm infos) (h : d.Built infos s) (h' : d.Built infos' s') :
    s.SameButOrder s' := by
  have hkeys : (s'.foreignKeys.map ForeignKey.unnumbered).Perm
      (s.foreignKeys.map ForeignKey.unnumbered) := by
    -- a key is built alike from either listing, up to its number
    refine perm_map_of_forall₂ (R := d.KeyBuilt infos) ?_ h.foreignKeys ?_
      (Description.perm_keysInto hperm d)
    · intro spec k k' hk hk'
      exact hk.unnumbered_eq hnodup hk'
    · exact h'.foreignKeys.imp fun _ _ hk => hk.perm hperm
  constructor
  · rw [h'.name_eq, h.name_eq]
  · rw [h'.vendor_eq, h.vendor_eq]
  · refine perm_map_of_forall₂ ?_ h.tables h'.tables hperm
    intro info t u ht hu
    exact ht.unnumbered_eq hu
  · exact hkeys
  · intro t ht t' ht' hname
    rw [hs.map_unnumbered_outgoing ht, hs'.map_unnumbered_outgoing ht', hname]
    exact hkeys.filter _
  · intro t ht t' ht' hname
    rw [hs.map_unnumbered_incoming ht, hs'.map_unnumbered_incoming ht', hname]
    exact hkeys.filter _

/-- Where a source answers, a build succeeds if and only if the tables that are not excluded have
different names and their keys the columns they name. The schema then has these tables in the order of
the list, their primary keys in the order of their sequence, and table by table the keys that lead to
one of them; and if the tables are listed in another order, the build succeeds as well and the schema
differs in numbers and order only. -/
theorem build_as_described {source : Source} {exclude : List Text.Pattern}
    {listed : List TableInfo} {d : Description} (h : source.Says exclude listed d) :
    ((∃ s, (build source exclude d.name).result = .ok s) ↔ d.Sound (kept exclude listed)) ∧
    ∀ s, (build source exclude d.name).result = .ok s →
      d.Built (kept exclude listed) s ∧
      ∀ source' listed', listed'.Perm listed → Source.Says source' exclude listed' d →
        ∃ s', (build source' exclude d.name).result = .ok s' ∧ s.SameButOrder s' := by
  refine ⟨exists_build_iff h, ?_⟩
  intro s hbuild
  have hbuilt := built_of_build h hbuild
  refine ⟨hbuilt, ?_⟩
  intro source' listed' hperm h'
  have hkept : (kept exclude listed').Perm (kept exclude listed) := hperm.filter _
  have hsound := (exists_build_iff h).1 ⟨s, hbuild⟩
  obtain ⟨s', hbuild'⟩ := (exists_build_iff h').2 (hsound.perm hkept)
  exact ⟨s', hbuild', sameButOrder_of_built (wellFormed_of_build hbuild)
    (wellFormed_of_build hbuild') hsound.nodup hkept hbuilt (built_of_build h' hbuild')⟩

end Schema

/-! ### A sample

Staff belong to teams, have managers among the staff and entries in a log that is not listed; a team is
led by one of the staff. -/

namespace Description

/-- A source that lists some tables and says what is described. -/
def source (d : Description) (listed : List TableInfo) : Source where
  listTables _ := .ok listed
  columns info := .ok (d.columns info)
  primaryKey info := .ok (d.primaryKey info)
  importedKeys info := .ok (d.importedKeys info)
  vendor _ := .ok d.vendor
  scan _ _ _ := .ok ⟨[], none⟩

theorem says_source (d : Description) (exclude : List Text.Pattern) (listed : List TableInfo) :
    (d.source listed).Says exclude listed d := by
  constructor <;> intros <;> rfl

/-- The table of staff. -/
def staffTable : TableInfo := .table "main" "staff"

/-- The table of teams. -/
def teamTable : TableInfo := .table "main" "team"

/-- Staff and teams. -/
def staff : Description where
  name := "main"
  columns info := (if info = teamTable then ["id", "lead"] else ["id", "manager", "team"]).map
    fun name => ⟨some name, 0, "integer", TypeCode.other, true, false, none, none⟩
  primaryKey _ := [⟨"id", 1⟩]
  importedKeys info := if info = teamTable then [⟨"led", 1, "lead", "main", "staff", "id", 1⟩] else
    [⟨"managed", 1, "manager", "main", "staff", "id", 1⟩,
      ⟨"member", 2, "team", "main", "team", "id", 1⟩,
      ⟨"logged", 3, "entry", "main", "log", "id", 1⟩]
  vendor := ∅

/-- A key of the sample. -/
def staffKey (name source column target : String) : KeySpec :=
  ⟨name, ⟨"main", source⟩, ⟨"main", target⟩, [⟨1, column, "id"⟩]⟩

theorem keys_staffTable : staff.keys staffTable = [staffKey "managed" "staff" "manager" "staff",
    staffKey "member" "staff" "team" "team", staffKey "logged" "staff" "entry" "log"] := by
  simp [keys, staff, staffTable, teamTable, TableInfo.table, KeySpec.aggregate, KeySpec.addRow,
    KeySpec.nameOf, KeySpec.pairOf, KeySpec.ordered, staffKey]

theorem keys_teamTable : staff.keys teamTable = [staffKey "led" "team" "lead" "staff"] := by
  simp [keys, staff, teamTable, TableInfo.table, KeySpec.aggregate, KeySpec.addRow,
    KeySpec.nameOf, KeySpec.pairOf, KeySpec.ordered, staffKey]

theorem sound_staff : staff.Sound [staffTable, teamTable] := by
  refine ⟨by decide, by decide, ?_⟩
  rw [List.forall_mem_cons, keys_staffTable, List.forall_mem_singleton, keys_teamTable]
  decide

end Description

open Description (staff staffTable teamTable sound_staff says_source) in
theorem Schema.build_as_described_sample :
    ∃ s s', (build (staff.source [staffTable, teamTable]) [] "main").result = .ok s ∧
      (build (staff.source [teamTable, staffTable]) [] "main").result = .ok s' ∧
      s.SameButOrder s' := by
  obtain ⟨hiff, hbuilt⟩ := build_as_described (says_source staff [] [staffTable, teamTable])
  obtain ⟨s, hs⟩ := hiff.2 sound_staff
  obtain ⟨-, hlisted⟩ := hbuilt s hs
  obtain ⟨s', hs', hsame⟩ := hlisted (staff.source [teamTable, staffTable])
    [teamTable, staffTable] (.swap staffTable teamTable []) (says_source ..)
  exact ⟨s, s', hs, hs', hsame⟩

end FixturePlan
