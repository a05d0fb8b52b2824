import FixturePlan.Proofs.Batching
import FixturePlan.Proofs.Database.LeavingKeys
import FixturePlan.Proofs.Database.Shadowing

/-!
# Runs over a database, some rows at a time

The order in which a database has the rows of a table does not depend on how many of them are fetched at
a time. What does depend on it is whether all of them arrive (`Database.Complete`). With two numbers of
rows with which they do, scans deliver alike (`Database.alike_scan`), and so a run comes to the same plan,
or the same failure, with both (`Planner.run_of_complete`).
-/

namespace FixturePlan

namespace Database

variable {db : Database} {t : StoredTable} {schema : String} {m n : ℕ}

/-- All rows of all tables arrive if so many are fetched at a time. Tables without row numbers ask for
nothing but room. -/
structure Complete (db : Database) (fetchSize : ℕ) : Prop where
  room : fetchSize ≤ greatestBatch
  unbroken : ∀ t ∈ db.tables, t.declaration.withoutRowid = false → t.Unbroken (max fetchSize 1) t.rows

theorem Complete.atLeastOne (h : db.Complete n) : db.Complete (max n 1) where
  room := max_le_greatestBatch.2 h.room
  unbroken := by
    rw [max_assoc, max_self]
    exact h.unbroken

theorem keepsNumbers_of_numbered (ht : t.Numbered) : t.KeepsNumbers where
  kept r hr := by
    rw [ht.rowidCell_eq hr, ht.rowidAffinity_eq]
    rfl
  inInt64 r hr n hn := by
    obtain rfl := Cell.integer.inj ((ht.rowidCell_eq hr).symm.trans hn)
    exact ht.inInt64 r hr

theorem unbroken_of_numbered (ht : t.Numbered) (size : ℕ) : t.Unbroken size t.rows := by
  refine StoredTable.Unbroken.of_one (StoredTable.unbroken_one_iff.2 ⟨?_, ?_⟩) size
  · exact fun r hr => ⟨r.rowid, ht.rowidCell_eq hr⟩
  · have hcells : t.rows.map t.rowidCell = (t.rows.map (·.rowid)).map Cell.integer := by
      rw [List.map_map]
      exact List.map_congr_left fun r hr => ht.rowidCell_eq hr
    rw [hcells]
    exact ht.nodup.map fun _ _ => Cell.integer.inj

/-- Rows with numbers of their own arrive with every number of rows that there is room for. -/
theorem complete_of_numbered
    (h : ∀ t ∈ db.tables, t.declaration.withoutRowid = false → t.Numbered) (hroom : n ≤ greatestBatch) :
    db.Complete n where
  room := hroom
  unbroken t ht hwithout := unbroken_of_numbered (h t ht hwithout) _

theorem alike_scan (hdb : db.WellDeclared) (ht : t ∈ db.tables) (hmain : sameName schema "main")
    (hkept : t.KeepsNumbers) (hm : db.Complete m) (hn : db.Complete n) :
    Scan.Alike (db.scan schema t.declaration.name m) (db.scan schema t.declaration.name n) := by
  have hname : sameName t.declaration.name t.declaration.name := beq_self_eq_true _
  have htable := table?_eq hdb ht hname
  cases hrowid : db.hasRowid schema t.declaration.name with
  | true =>
    -- by row number: either scan delivers all rows in one order of their numbers
    have hwithout := ((hasRowid_eq_true_iff hdb ht hname).1 hrowid).2.2
    obtain ⟨ordered, hordered⟩ := exists_inOrder db t
    obtain ⟨a, ha, hfailure, hrows⟩ :=
      scan_of_unbroken hordered ht htable hrowid hkept hm.room (hm.unbroken t ht hwithout)
    obtain ⟨b, hb, hfailure', hrows'⟩ :=
      scan_of_unbroken hordered ht htable hrowid hkept hn.room (hn.unbroken t ht hwithout)
    rw [ha, hb]
    exact .scanned (hrows.trans hrows'.symm) (hfailure.trans hfailure'.symm)
  | false =>
    -- by position: the fetch size says nothing but where the list is cut
    obtain ⟨ordered, hperm, -, hbegins⟩ :=
      exists_beginsAt_of_not_hasRowid htable hmain (hdb.declarable t ht) hrowid
    have hlength := length_le_of_perm ht hperm
    rw [hbegins.scan_eq hlength hm.room, hbegins.scan_eq hlength hn.room]
    refine .scanned ?_ rfl
    rw [Scan.rows, Scan.rows, Scan.flatten_cut (Nat.le_max_right m 1),
      Scan.flatten_cut (Nat.le_max_right n 1)]

end Database

namespace Planner

variable {p : Planner} {db : Database} {n : ℕ}

/-- The tables of a schema that is built from a database are tables of the database. -/
theorem exists_table_of_inspect {s : Schema} {joins : JoinShapes}
    (hs : (p.inspect db.source).result = .ok (s, joins)) {t : Table} (ht : t ∈ s.tables) :
    sameName t.name.schema "main" ∧ ∃ stored ∈ db.tables, t.name.name = stored.declaration.name := by
  simp only [inspect, Report.result_andThen_eq_ok_iff, Report.result_mapError_eq_ok_iff,
    Report.result_value, Except.ok.injEq] at hs
  obtain ⟨exclude, -, built, hbuild, hpair⟩ := hs
  obtain ⟨rfl, -⟩ := Prod.mk.inj hpair
  have hname : t.name ∈ built.tables.map (·.name) := List.mem_map_of_mem ht
  rw [Schema.map_name_of_build hbuild] at hname
  obtain ⟨info, hinfo, hqualified⟩ := List.mem_map.1 hname
  obtain ⟨hmain, stored, hstored, rfl⟩ := Database.exists_table_of_mem_inspected hinfo
  rw [← hqualified]
  exact ⟨hmain, stored, hstored, rfl⟩

theorem fetchesAlike_of_complete (hdb : db.WellDeclared) (hkept : ∀ t ∈ db.tables, t.KeepsNumbers)
    (hm : db.Complete p.settings.extract.fetchSize) (hn : db.Complete n) :
    p.FetchesAlike db.source n := by
  intro s joins hs t ht
  obtain ⟨hmain, stored, hstored, hname⟩ := exists_table_of_inspect hs ht
  show Scan.Alike (db.scan t.name.schema t.name.name (max n 1))
    (db.scan t.name.schema t.name.name (max p.settings.extract.fetchSize 1))
  rw [hname]
  exact Database.alike_scan hdb hstored hmain (hkept stored hstored) hn.atLeastOne hm.atLeastOne

/-- A run over a database does not depend on how many rows are fetched at a time, as long as all of them
arrive. -/
theorem run_of_complete (hdb : db.WellDeclared) (hkept : ∀ t ∈ db.tables, t.KeepsNumbers)
    (hm : db.Complete p.settings.extract.fetchSize) (hn : db.Complete n) :
    (∀ decide, (p.withFetchSize n).run db.source decide = p.run db.source decide) ∧
      (p.withFetchSize n).runConfigured db.source = p.runConfigured db.source :=
  have h := fetchesAlike_of_complete hdb hkept hm hn
  ⟨run_withFetchSize h, runConfigured_withFetchSize h⟩

/-- So it does not if the rows of each table have numbers of their own. -/
theorem run_of_numbered (hdb : db.WellDeclared) (hnumbered : ∀ t ∈ db.tables, t.Numbered)
    (hm : p.settings.extract.fetchSize ≤ Database.greatestBatch) (hn : n ≤ Database.greatestBatch) :
    (∀ decide, (p.withFetchSize n).run db.source decide = p.run db.source decide) ∧
      (p.withFetchSize n).runConfigured db.source = p.runConfigured db.source := by
  have hcomplete : ∀ m ≤ Database.greatestBatch, db.Complete m := fun m =>
    Database.complete_of_numbered fun t ht _ => hnumbered t ht
  exact run_of_complete hdb (fun t ht => Database.keepsNumbers_of_numbered (hnumbered t ht))
    (hcomplete _ hm) (hcomplete _ hn)

end Planner

end FixturePlan
