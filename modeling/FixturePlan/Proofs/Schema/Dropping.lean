import FixturePlan.Proofs.Schema.Description

/-!
# Keys that lead out of a schema

A key that leads to none of the tables of a schema is dropped with a warning. Let one source report, on
top of the keys of another, keys that lead out of the schema (`Source.AddsLeaving`). Then both builds
succeed or both fail, and the schemas differ in nothing but the names of keys; the one build warns of
every key that leads out (`Schema.alike_build`).

Both builds go the same way step by step, so that the proof follows their stages (`Report.Alike`).
-/

namespace FixturePlan

/-! ### Reports that go together

Two computations are followed side by side. The first may warn where the second does not, and otherwise
they do alike. -/

/-- Two reports of which both succeed or both fail. If they succeed, their values are related and their
warnings known. -/
structure Report.Alike {ε α β : Type} (R : α → β → Prop) (ws ws' : List Warning) (r : Report ε α)
    (r' : Report ε β) : Prop where
  exists_iff : (∃ a, r.result = .ok a) ↔ ∃ b, r'.result = .ok b
  related : ∀ a b, r.result = .ok a → r'.result = .ok b → R a b
  warnings_eq : ∀ a, r.result = .ok a → r.warnings = ws
  warnings_eq' : ∀ b, r'.result = .ok b → r'.warnings = ws'

namespace Report

variable {ε α β γ δ σ : Type}

namespace Alike

variable {R : α → β → Prop} {Q : γ → δ → Prop} {ws ws' vs vs' : List Warning} {r : Report ε α}
  {r' : Report ε β} {f : α → Report ε γ} {g : β → Report ε δ}

theorem refl (r : Report ε α) :
    Alike (fun a b => r.result = .ok a ∧ a = b) r.warnings r.warnings r r where
  exists_iff := .rfl
  related _ _ ha hb := ⟨ha, Except.ok.inj (ha.symm.trans hb)⟩
  warnings_eq _ _ := rfl
  warnings_eq' _ _ := rfl

theorem fail {e e' : ε} : Alike R ws ws' (.fail e) (.fail e') where
  exists_iff := by simp
  related _ _ ha := by cases ha
  warnings_eq _ ha := by cases ha
  warnings_eq' _ hb := by cases hb

theorem ofExcept {ε' : Type} {e : Except ε α} {e' : Except ε β} {f : ε → ε'}
    (hiff : (∃ a, e = .ok a) ↔ ∃ b, e' = .ok b) (hR : ∀ a b, e = .ok a → e' = .ok b → R a b) :
    Alike R [] [] ((Report.ofExcept e).mapError f) ((Report.ofExcept e').mapError f) where
  exists_iff := by simpa only [result_mapError_eq_ok_iff, result_ofExcept] using hiff
  related a b ha hb := hR a b (result_mapError_eq_ok_iff.1 ha) (result_mapError_eq_ok_iff.1 hb)
  warnings_eq _ _ := rfl
  warnings_eq' _ _ := rfl

theorem value {a : α} {b : β} (h : R a b) :
    Alike R [] [] (.value a : Report ε α) (.value b) where
  exists_iff := ⟨fun _ => ⟨b, rfl⟩, fun _ => ⟨a, rfl⟩⟩
  related _ _ ha hb := Except.ok.inj ha ▸ Except.ok.inj hb ▸ h
  warnings_eq _ _ := rfl
  warnings_eq' _ _ := rfl

/-- What goes on alike from alike reports is alike. -/
theorem andThen (h : Alike R ws ws' r r') (hf : ∀ a b, R a b → Alike Q vs vs' (f a) (g b)) :
    Alike Q (ws ++ vs) (ws' ++ vs') (r.andThen f) (r'.andThen g) := by
  have hnext : ∀ {a b}, r.result = .ok a → r'.result = .ok b → Alike Q vs vs' (f a) (g b) :=
    fun ha hb => hf _ _ (h.related _ _ ha hb)
  -- both succeed or neither, and then the results and the warnings correspond part by part
  refine ⟨?_, ?_, ?_, ?_⟩
  · simp only [result_andThen_eq_ok_iff]
    constructor
    · rintro ⟨c, a, ha, hc⟩
      obtain ⟨b, hb⟩ := h.exists_iff.1 ⟨a, ha⟩
      obtain ⟨d, hd⟩ := (hnext ha hb).exists_iff.1 ⟨c, hc⟩
      exact ⟨d, b, hb, hd⟩
    · rintro ⟨d, b, hb, hd⟩
      obtain ⟨a, ha⟩ := h.exists_iff.2 ⟨b, hb⟩
      obtain ⟨c, hc⟩ := (hnext ha hb).exists_iff.2 ⟨d, hd⟩
      exact ⟨c, a, ha, hc⟩
  · intro c d hc hd
    obtain ⟨a, ha, hc⟩ := result_andThen_eq_ok_iff.1 hc
    obtain ⟨b, hb, hd⟩ := result_andThen_eq_ok_iff.1 hd
    exact (hnext ha hb).related c d hc hd
  · intro c hc
    obtain ⟨a, ha, hc⟩ := result_andThen_eq_ok_iff.1 hc
    obtain ⟨b, hb⟩ := h.exists_iff.1 ⟨a, ha⟩
    rw [warnings_andThen ha, h.warnings_eq a ha, (hnext ha hb).warnings_eq c hc]
  · intro d hd
    obtain ⟨b, hb, hd⟩ := result_andThen_eq_ok_iff.1 hd
    obtain ⟨a, ha⟩ := h.exists_iff.2 ⟨b, hb⟩
    rw [warnings_andThen hb, h.warnings_eq' b hb, (hnext ha hb).warnings_eq' d hd]

/-- A warning on one side goes before what is alike. -/
theorem noting {f : σ → Report ε α} {s : σ} {w : Warning} (h : Alike R ws ws' (f s) r') :
    Alike R (w :: ws) ws' ((Pass.noting s w).toReport.andThen f) r' := by
  have hvalue : Alike (fun a (_ : Unit) => a = s) [w] [] (Pass.noting (ε := ε) s w).toReport
      (.value ()) := by
    refine ⟨⟨fun _ => ⟨(), rfl⟩, fun _ => ⟨s, rfl⟩⟩, ?_, fun _ _ => rfl, fun _ _ => rfl⟩
    intro a _ ha _
    exact (Except.ok.inj ha).symm
  refine hvalue.andThen (g := fun _ => r') ?_
  rintro a _ rfl
  exact h

end Alike

end Report

/-! ### Names of keys

Without a leaving key the keys after it get other ordinals and thereby other names. Nothing but a name
depends on that. -/

/-- A key without its name. -/
def ForeignKey.unnamed (k : ForeignKey) : ForeignKey := { k with name := "" }

/-- A reported key without its name. -/
def KeySpec.unnamed (spec : KeySpec) : KeySpec := { spec with name := "" }

namespace Schema

/-- Two schemas differ in nothing but the names of keys, and in what the driver adds. -/
structure SameButNames (s s' : Schema) : Prop where
  name_eq : s.name = s'.name
  tables_eq : s.tables = s'.tables
  foreignKeys_eq : s.foreignKeys.map ForeignKey.unnamed = s'.foreignKeys.map ForeignKey.unnamed

/-- The warning for a key that is dropped. -/
def droppedWarning (spec : KeySpec) : Warning :=
  .foreignKeyDropped spec.name spec.sourceTable spec.targetTable

/-- Two schemas under construction have the tables of some names, and differ in the names of keys
only. -/
structure Alongside (names : List QualifiedName) (s s' : Schema) : Prop where
  wellFormed : s.WellFormed
  names_eq : s.tables.map (·.name) = names
  same : s.SameButNames s'

variable {s s' : Schema} {spec spec' : KeySpec} {t u : Table} {names : List QualifiedName}

theorem map_name_addKey (s : Schema) (key : ForeignKeyId → ForeignKey) :
    (s.addKey key).tables.map (·.name) = s.tables.map (·.name) := by
  have hname : ∀ tables : List Table,
      tables.map (·.name) = (tables.map Table.unnumbered).map (·.name) := by
    intro tables
    rw [List.map_map]
    rfl
  rw [hname, map_unnumbered_addKey, ← hname]

/-- Adding one key under two names keeps everything else the same. -/
theorem SameButNames.addKey {key key' : ForeignKeyId → ForeignKey} (h : s.SameButNames s')
    (hkey : ∀ id, (key id).unnamed = (key' id).unnamed) :
    (s.addKey key).SameButNames (s'.addKey key') := by
  have hlength : s.foreignKeys.length = s'.foreignKeys.length := by
    simpa using congrArg List.length h.foreignKeys_eq
  refine ⟨h.name_eq, ?_, ?_⟩
  · -- a table lists a key by its number
    have hlisting : ∀ k : ForeignKey, Table.listing k = Table.listing k.unnamed := fun _ => rfl
    apply List.ext_getElem?
    intro i
    show (s.addKey key).table? i = (s'.addKey key').table? i
    rw [table?_addKey, table?_addKey, hlisting, hkey, ← hlisting, hlength, table?, table?, h.tables_eq]
  · show (s.foreignKeys ++ [key _]).map _ = (s'.foreignKeys ++ [key' _]).map _
    rw [List.map_append, List.map_append, h.foreignKeys_eq, List.map_singleton, List.map_singleton,
      hkey, hlength]

/-- The columns of a key are found whatever its name. -/
theorem findPairs_eq_ok_congr (hpairs : spec.pairs = spec'.pairs) {found : List KeyPair} :
    findPairs spec t u spec.pairs = .ok found ↔ findPairs spec' t u spec'.pairs = .ok found := by
  simp only [findPairs_eq_ok_iff, findPair_eq_ok_iff, hpairs]

theorem SameButNames.endpoints?_eq (h : s.SameButNames s')
    (hsource : spec.sourceTable = spec'.sourceTable) (htarget : spec.targetTable = spec'.targetTable) :
    s.endpoints? spec = s'.endpoints? spec' := by
  have htable : s.table? = s'.table? := by
    funext id
    rw [table?, h.tables_eq, table?]
  simp only [endpoints?, find?, htable, h.tables_eq, hsource, htarget]

namespace Alongside

variable {a a' : Attached}

theorem exists_endpoints (h : Alongside names s s') (hsource : spec.sourceTable ∈ names)
    (htarget : spec.targetTable ∈ names) : ∃ t u, s.endpoints? spec = some (t, u) := by
  rw [← h.names_eq, List.mem_map] at hsource htarget
  obtain ⟨t, ht⟩ := hsource
  obtain ⟨u, hu⟩ := htarget
  exact ⟨t, u, h.wellFormed.endpoints?_eq_some_iff.2 ⟨ht, hu⟩⟩

/-- A key that leads to none of the tables is left out. -/
theorem attachOne_of_leaving (h : Alongside names a.schema s') (htarget : spec.targetTable ∉ names) :
    attachOne a spec = .noting a (droppedWarning spec) := by
  have hnone : a.schema.endpoints? spec = none := by
    cases hends : a.schema.endpoints? spec with
    | none => rfl
    | some ends =>
      obtain ⟨t, u⟩ := ends
      obtain ⟨-, hu, hname⟩ := h.wellFormed.endpoints?_eq_some_iff.1 hends
      rw [← h.names_eq] at htarget
      exact absurd (List.mem_map.2 ⟨u, hu, hname⟩) htarget
  rw [attachOne, hnone]
  rfl

/-- A key between the tables is attached alike under both names. -/
theorem attachOne (h : Alongside names a.schema a'.schema) (hspec : spec.unnamed = spec'.unnamed)
    (hsource : spec.sourceTable ∈ names) (htarget : spec.targetTable ∈ names) :
    Report.Alike (fun b b' => Alongside names b.schema b'.schema) [] []
      (attachOne a spec).toReport (attachOne a' spec').toReport := by
  obtain ⟨t, u, hends⟩ := h.exists_endpoints hsource htarget
  obtain ⟨-, hsources, htargets, hpairs⟩ := KeySpec.mk.inj hspec
  have hends' : a'.schema.endpoints? spec' = some (t, u) :=
    (h.same.endpoints?_eq hsources htargets).symm.trans hends
  cases hfound : findPairs spec t u spec.pairs with
  | error e =>
    cases hfound' : findPairs spec' t u spec'.pairs with
    | ok found => rw [(findPairs_eq_ok_congr hpairs).2 hfound'] at hfound; cases hfound
    | error e' =>
      simp only [Schema.attachOne, hends, hends', hfound, hfound']
      exact .fail
  | ok found =>
    have hfound' := (findPairs_eq_ok_congr hpairs).1 hfound
    have hs := wellFormed_attachOne h.wellFormed spec
    simp only [Schema.attachOne, hends, hends', hfound, hfound'] at hs ⊢
    refine .value ⟨hs, (map_name_addKey _ _).trans h.names_eq, h.same.addKey fun id => ?_⟩
    simp only [ForeignKey.unnamed, keyOf, hsources, htargets]

/-- Attach keys to one schema, and to the other those of them that lead to one of the tables, whatever
their names. -/
theorem run {specs specs' : List KeySpec} (h : Alongside names a.schema a'.schema)
    (hsources : ∀ spec ∈ specs, spec.sourceTable ∈ names)
    (hspecs : (specs.filter (·.targetTable ∈ names)).map KeySpec.unnamed =
      specs'.map KeySpec.unnamed) :
    Report.Alike (fun b b' => Alongside names b.schema b'.schema)
      ((specs.filter (·.targetTable ∉ names)).map droppedWarning) []
      (Pass.run Schema.attachOne a specs).toReport (Pass.run Schema.attachOne a' specs').toReport := by
  -- the right side has no specs that lead out, so that it advances only at the others
  induction specs generalizing a a' specs' with
  | nil =>
    obtain rfl : specs' = [] := List.map_eq_nil_iff.1 hspecs.symm
    exact .value h
  | cons spec rest ih =>
    obtain ⟨hsource, hrest⟩ := List.forall_mem_cons.1 hsources
    by_cases htarget : spec.targetTable ∈ names
    · rw [List.filter_cons_of_pos (by simpa using htarget), List.map_cons] at hspecs
      obtain ⟨spec', rest', rfl, hspec, hspecs⟩ := List.map_eq_cons_iff.1 hspecs.symm
      rw [List.filter_cons_of_neg (by simpa using htarget), Pass.toReport_run_cons,
        Pass.toReport_run_cons]
      exact (h.attachOne hspec.symm hsource htarget).andThen fun b b' hb => ih hb hrest hspecs.symm
    · rw [List.filter_cons_of_neg (by simpa using htarget)] at hspecs
      rw [List.filter_cons_of_pos (by simpa using htarget), Pass.toReport_run_cons,
        h.attachOne_of_leaving htarget]
      exact .noting (ih h hrest hspecs)

theorem attach {specs specs' : List KeySpec} (h : Alongside names s s')
    (hsources : ∀ spec ∈ specs, spec.sourceTable ∈ names)
    (hspecs : (specs.filter (·.targetTable ∈ names)).map KeySpec.unnamed =
      specs'.map KeySpec.unnamed) :
    Report.Alike (Alongside names) ((specs.filter (·.targetTable ∉ names)).map droppedWarning) []
      ((s.attach specs).toReport.andThen fun a => .value a.schema)
      ((s'.attach specs').toReport.andThen fun a => .value a.schema) := by
  have hstart : Alongside names (Attached.mk s []).schema (Attached.mk s' []).schema := h
  have hall := (hstart.run hsources hspecs).andThen (Q := Alongside names)
    (f := fun a => .value a.schema) (g := fun a => .value a.schema) fun _ _ ha => .value ha
  rwa [List.append_nil] at hall

end Alongside

/-! ### Sources

Two sources that tell the same apart from leaving keys build schemas that differ in nothing but names. -/

/-- The tables of a schema that no pattern excludes; none if the source cannot list them. -/
def inspected (source : Source) (exclude : List Text.Pattern) (name : String) : List TableInfo :=
  (keptTables source exclude name).toOption.getD []

/-- The names of the tables of a schema that no pattern excludes. -/
def inspectedNames (source : Source) (exclude : List Text.Pattern) (name : String) :
    List QualifiedName :=
  (inspected source exclude name).map qualified

/-- The keys of a table as a source reports them; none if it cannot. -/
def reportedKeys (source : Source) (info : TableInfo) : List KeySpec :=
  KeySpec.aggregate info ((source.importedKeys info).toOption.getD [])

/-- The warnings for the keys of a table that lead to none of some tables. -/
def droppedWarnings (source : Source) (names : List QualifiedName) (info : TableInfo) :
    List Warning :=
  ((reportedKeys source info).filter (·.targetTable ∉ names)).map droppedWarning

end Schema

/-- Two sources describe the same tables. The first may report more keys, but only such that lead out
of the schema, and the keys may have other names. -/
structure Source.AddsLeaving (source source' : Source) (exclude : List Text.Pattern) (name : String) :
    Prop where
  listTables_eq : source.listTables = source'.listTables
  columns_eq : source.columns = source'.columns
  primaryKey_eq : source.primaryKey = source'.primaryKey
  exists_vendor_iff : (∃ v, source.vendor name = .ok v) ↔ ∃ v, source'.vendor name = .ok v
  exists_importedKeys_iff : ∀ info ∈ Schema.inspected source exclude name,
    (∃ rows, source.importedKeys info = .ok rows) ↔ ∃ rows, source'.importedKeys info = .ok rows
  keys_eq : ∀ info ∈ Schema.inspected source exclude name, ∀ rows rows',
    source.importedKeys info = .ok rows → source'.importedKeys info = .ok rows' →
      ((KeySpec.aggregate info rows).filter
          (·.targetTable ∈ Schema.inspectedNames source exclude name)).map KeySpec.unnamed =
        (KeySpec.aggregate info rows').map KeySpec.unnamed

namespace Schema

variable {source source' : Source} {exclude : List Text.Pattern} {name : String}

theorem inspected_eq {infos : List TableInfo} (h : keptTables source exclude name = .ok infos) :
    inspected source exclude name = infos := by
  rw [inspected, h]
  rfl

/-- If a schema is built, the keys of each of its tables are reported. -/
theorem exists_importedKeys_of_loadAllKeys {infos : List TableInfo}
    (h : (loadAllKeys source s infos).result = .ok s') :
    ∀ info ∈ infos, ∃ rows, source.importedKeys info = .ok rows := by
  induction infos generalizing s with
  | nil =>
    intro info hinfo
    cases hinfo
  | cons info rest ih =>
    obtain ⟨s₁, hone, hrest⟩ := Report.result_andThen_eq_ok_iff.1 h
    obtain ⟨rows, hrows, -⟩ := result_loadKeys_eq_ok_iff.1 hone
    exact List.forall_mem_cons.2 ⟨⟨rows, hrows⟩, ih hrest⟩

theorem exists_importedKeys_of_build (h : (build source exclude name).result = .ok s) :
    ∀ info ∈ inspected source exclude name, ∃ rows, source.importedKeys info = .ok rows := by
  obtain ⟨infos, tables, s', vendor, hinfos, -, -, hkeys, -⟩ := result_build_eq_ok_iff.1 h
  rw [inspected_eq hinfos]
  exact exists_importedKeys_of_loadAllKeys hkeys

theorem map_name_loadAllKeys {infos : List TableInfo}
    (h : (loadAllKeys source s infos).result = .ok s') :
    s'.tables.map (·.name) = s.tables.map (·.name) := by
  induction infos generalizing s with
  | nil =>
    obtain rfl := Except.ok.inj h
    rfl
  | cons info rest ih =>
    obtain ⟨s₁, hone, hrest⟩ := Report.result_andThen_eq_ok_iff.1 h
    obtain ⟨rows, -, -, rfl⟩ := result_loadKeys_eq_ok_iff.1 hone
    rw [ih hrest]
    refine Pass.state_run_of_step
      (P := fun a : Attached => a.schema.tables.map (·.name) = s.tables.map (·.name)) ?_ rfl
    intro a spec _ ha
    rcases attachOne_cases a spec with ⟨-, heq⟩ | ⟨t, u, -, ⟨e, -, heq⟩ | ⟨found, -, heq⟩⟩
    · rwa [heq]
    · rwa [heq]
    · rw [heq]
      exact (map_name_addKey _ _).trans ha

/-- A schema has the tables that were listed, under their names. -/
theorem map_name_of_build (h : (build source exclude name).result = .ok s) :
    s.tables.map (·.name) = inspectedNames source exclude name := by
  obtain ⟨infos, tables, s', vendor, hinfos, -, htables, hkeys, -, rfl⟩ := result_build_eq_ok_iff.1 h
  have hloaded := (Report.result_mapList_eq_ok_iff.1 htables).imp fun _ _ => loaded_of_loadTable
  rw [inspectedNames, inspected_eq hinfos, map_qualified_eq_of_loaded hloaded]
  exact map_name_loadAllKeys hkeys

section AddsLeaving

variable (h : source.AddsLeaving source' exclude name)

include h

theorem alike_loadKeys {info : TableInfo} (hinfo : info ∈ inspected source exclude name)
    (hs : Alongside (inspectedNames source exclude name) s s') :
    Report.Alike (Alongside (inspectedNames source exclude name))
      (droppedWarnings source (inspectedNames source exclude name) info) []
      (loadKeys source s info) (loadKeys source' s' info) := by
  have hrows := Report.Alike.ofExcept (f := SchemaError.source)
    (R := fun rows rows' => source.importedKeys info = .ok rows ∧
      source'.importedKeys info = .ok rows')
    (h.exists_importedKeys_iff info hinfo) fun _ _ hrows hrows' => ⟨hrows, hrows'⟩
  have hattach : ∀ rows rows', source.importedKeys info = .ok rows ∧
      source'.importedKeys info = .ok rows' →
      Report.Alike (Alongside (inspectedNames source exclude name))
        (droppedWarnings source (inspectedNames source exclude name) info) []
        ((s.attach (KeySpec.aggregate info rows)).toReport.andThen fun a => .value a.schema)
        ((s'.attach (KeySpec.aggregate info rows')).toReport.andThen fun a => .value a.schema) := by
    rintro rows rows' ⟨hrows, hrows'⟩
    have hsources : ∀ spec ∈ KeySpec.aggregate info rows,
        spec.sourceTable ∈ inspectedNames source exclude name := by
      intro spec hspec
      rw [KeySpec.sourceTable_of_mem_aggregate hspec]
      exact List.mem_map_of_mem hinfo
    have hreported : reportedKeys source info = KeySpec.aggregate info rows := by
      rw [reportedKeys, hrows]
      rfl
    rw [droppedWarnings, hreported]
    exact hs.attach hsources (h.keys_eq info hinfo rows rows' hrows hrows')
  exact hrows.andThen hattach

theorem alike_loadAllKeys {infos : List TableInfo}
    (hinfos : ∀ info ∈ infos, info ∈ inspected source exclude name)
    (hs : Alongside (inspectedNames source exclude name) s s') :
    Report.Alike (Alongside (inspectedNames source exclude name))
      (infos.flatMap (droppedWarnings source (inspectedNames source exclude name))) []
      (loadAllKeys source s infos) (loadAllKeys source' s' infos) := by
  induction infos generalizing s s' with
  | nil => exact .value hs
  | cons info rest ih =>
    obtain ⟨hinfo, hrest⟩ := List.forall_mem_cons.1 hinfos
    rw [List.flatMap_cons]
    exact (alike_loadKeys h hinfo hs).andThen fun t t' ht => ih hrest ht

/-- The last stages of a build: the keys, and what the driver adds. -/
theorem alike_finish {tables : List Table}
    (hnodup : (inspectedNames source exclude name).Nodup)
    (htables : (Report.mapList (loadTable source) (inspected source exclude name).zipIdx).result =
      .ok tables) :
    Report.Alike SameButNames
      ((inspected source exclude name).flatMap
        (droppedWarnings source (inspectedNames source exclude name))) []
      ((loadAllKeys source { empty name with tables } (inspected source exclude name)).andThen
        fun s => ((Report.ofExcept (source.vendor name)).mapError SchemaError.source).andThen
          fun vendor => .value { s with vendor })
      ((loadAllKeys source' { empty name with tables } (inspected source exclude name)).andThen
        fun s => ((Report.ofExcept (source'.vendor name)).mapError SchemaError.source).andThen
          fun vendor => .value { s with vendor }) := by
  have hloaded := (Report.result_mapList_eq_ok_iff.1 htables).imp fun _ _ => loaded_of_loadTable
  have hs : Alongside (inspectedNames source exclude name) { empty name with tables }
      { empty name with tables } :=
    ⟨wellFormed_of_loaded hloaded hnodup, (map_qualified_eq_of_loaded hloaded).symm, rfl, rfl, rfl⟩
  have hvendor : Report.Alike (fun _ _ => True) [] []
      ((Report.ofExcept (source.vendor name)).mapError SchemaError.source)
      ((Report.ofExcept (source'.vendor name)).mapError SchemaError.source) :=
    .ofExcept h.exists_vendor_iff fun _ _ _ _ => trivial
  have hall := (alike_loadAllKeys h (fun _ hinfo => hinfo) hs).andThen (Q := SameButNames)
    fun t t' ht => hvendor.andThen fun vendor vendor' _ => .value
      (show { t with vendor }.SameButNames { t' with vendor := vendor' } from
        ⟨ht.same.name_eq, ht.same.tables_eq, ht.same.foreignKeys_eq⟩)
  rwa [List.append_nil, List.append_nil] at hall

/-- Keys that lead out of a schema are dropped with a warning each, and everything else is built as
without them. -/
theorem alike_build :
    Report.Alike SameButNames
      ((Report.mapList (loadTable source) (inspected source exclude name).zipIdx).warnings ++
        (inspected source exclude name).flatMap
          (droppedWarnings source (inspectedNames source exclude name)))
      (Report.mapList (loadTable source) (inspected source exclude name).zipIdx).warnings
      (build source exclude name) (build source' exclude name) := by
  -- tables and columns are told alike by both sources; only the keys differ
  have hkept : keptTables source exclude name = keptTables source' exclude name := by
    rw [keptTables, h.listTables_eq, keptTables]
  have hload : loadTable source' = loadTable source := by
    funext entry
    simp only [loadTable, loadColumns, loadPrimaryKey, h.columns_eq, h.primaryKey_eq]
  have hlisted := Report.Alike.ofExcept (f := SchemaError.source)
    (R := fun infos infos' => keptTables source exclude name = .ok infos ∧ infos = infos')
    (e := keptTables source exclude name) .rfl
    fun infos infos' ha hb => ⟨ha, Except.ok.inj (ha.symm.trans hb)⟩
  unfold build
  rw [← hkept, hload]
  refine hlisted.andThen ?_
  rintro infos _ ⟨hinfos, rfl⟩
  obtain rfl := inspected_eq hinfos
  cases hduplicate : firstDuplicate? (inspected source exclude name) with
  | some duplicate => exact .fail
  | none =>
    have hnodup := firstDuplicate?_eq_none_iff.1 hduplicate
    have hall := (Report.Alike.refl
      (Report.mapList (loadTable source) (inspected source exclude name).zipIdx)).andThen
        (Q := SameButNames) fun tables tables' htables => by
          obtain ⟨htables, rfl⟩ := htables
          exact alike_finish h hnodup htables
    rw [List.append_nil] at hall
    exact hall

end AddsLeaving

end Schema

end FixturePlan
