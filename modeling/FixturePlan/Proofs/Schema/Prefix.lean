import FixturePlan.Proofs.Schema.Attaching
import FixturePlan.Proofs.Schema.Dropping

/-!
# Attaching keys one after the other

What becomes of a key that is to be attached depends on the tables of the schema, and not on the keys
that were attached before (`Schema.outcome?_congr`): its tables are not both there, or it names a column
that its table does not have, or it is added. Attaching two lists of keys is therefore attaching the one
and then the other, and a list with a key that cannot be attached leaves what the keys before it leave
(`Schema.attach_prefixes`).
-/

namespace FixturePlan

/-- A table has a column of a name. -/
def Table.HasColumn (t : Table) (name : String) : Prop := ∃ c ∈ t.columns, c.name = name

/-- A table without the lists of its keys. -/
def Table.bare (t : Table) : Table := { t with outgoing := [], incoming := [] }

theorem Table.columnIndex?_eq_none_iff {t : Table} {name : String} :
    t.columnIndex? name = none ↔ ¬t.HasColumn name := by
  simp [columnIndex?, HasColumn]

theorem Table.hasColumn_of_columnIndex? {t : Table} {name : String} {i : Nat}
    (h : t.columnIndex? name = some i) : t.HasColumn name := by
  by_contra hmissing
  rw [Table.columnIndex?_eq_none_iff.2 hmissing] at h
  cases h

/-- The first column that the pairs of a key name and that its table does not have. The source side of a
pair comes before its target side. -/
inductive KeySpec.FirstUnknown (spec : KeySpec) (source target : Table) :
    List PairSpec → QualifiedName → String → Prop
  | source {pair : PairSpec} {rest : List PairSpec} (missing : ¬source.HasColumn pair.sourceColumn) :
      FirstUnknown spec source target (pair :: rest) spec.sourceTable pair.sourceColumn
  | target {pair : PairSpec} {rest : List PairSpec} (found : source.HasColumn pair.sourceColumn)
      (missing : ¬target.HasColumn pair.targetColumn) :
      FirstUnknown spec source target (pair :: rest) spec.targetTable pair.targetColumn
  | later {pair : PairSpec} {rest : List PairSpec} {table : QualifiedName} {column : String}
      (found : source.HasColumn pair.sourceColumn) (found' : target.HasColumn pair.targetColumn)
      (unknown : FirstUnknown spec source target rest table column) :
      FirstUnknown spec source target (pair :: rest) table column

namespace Schema

/-- Whether both tables of a key are in the schema. -/
def covers (s : Schema) (spec : KeySpec) : Bool := (s.endpoints? spec).isSome

/-- The tables of a key are in the schema, and this is the first column it names that is not. -/
def Misses (s : Schema) (spec : KeySpec) (table : QualifiedName) (column : String) : Prop :=
  ∃ source target, s.endpoints? spec = some (source, target) ∧
    spec.FirstUnknown source target spec.pairs table column

/-- A key is the one that a specification describes, between tables of the schema. -/
def Describes (s : Schema) (spec : KeySpec) (k : ForeignKey) : Prop :=
  ∃ source target found, s.endpoints? spec = some (source, target) ∧
    findPairs spec source target spec.pairs = .ok found ∧ k = keyOf spec source target found k.id

/-- What becomes of a key: nothing if a table of it is missing, and otherwise a failure or the key that
is to be added. -/
def outcome? (s : Schema) (spec : KeySpec) :
    Option (Except SchemaError (ForeignKeyId → ForeignKey)) :=
  (s.endpoints? spec).map fun (source, target) =>
    (findPairs spec source target spec.pairs).map (keyOf spec source target)

/-- The tables without the lists of their keys. -/
def bareTables (s : Schema) : List Table := s.tables.map Table.bare

variable {s s' : Schema} {spec : KeySpec} {a : Attached} {specs : List KeySpec}

/-! ### Columns that are not there

The columns of the pairs are looked up in order, source before target, and the first that is missing is
reported. -/

theorem firstUnknown_cons_iff {source target : Table} {pair : PairSpec} {rest : List PairSpec}
    {table : QualifiedName} {column : String} :
    spec.FirstUnknown source target (pair :: rest) table column ↔
      (¬source.HasColumn pair.sourceColumn ∧ table = spec.sourceTable ∧ column = pair.sourceColumn) ∨
      (source.HasColumn pair.sourceColumn ∧ ¬target.HasColumn pair.targetColumn ∧
        table = spec.targetTable ∧ column = pair.targetColumn) ∨
      (source.HasColumn pair.sourceColumn ∧ target.HasColumn pair.targetColumn ∧
        spec.FirstUnknown source target rest table column) := by
  constructor
  · intro h
    cases h with
    | source missing => exact Or.inl ⟨missing, rfl, rfl⟩
    | target found missing => exact Or.inr (Or.inl ⟨found, missing, rfl, rfl⟩)
    | later found found' unknown => exact Or.inr (Or.inr ⟨found, found', unknown⟩)
  · rintro (⟨missing, rfl, rfl⟩ | ⟨found, missing, rfl, rfl⟩ | ⟨found, found', unknown⟩)
    · exact .source missing
    · exact .target found missing
    · exact .later found found' unknown

theorem findPairs_eq_error_iff {source target : Table} {pairs : List PairSpec} {e : SchemaError} :
    findPairs spec source target pairs = .error e ↔ ∃ table column,
      spec.FirstUnknown source target pairs table column ∧
        e = .unknownForeignKeyColumn spec.name table column := by
  -- pairs are looked up in order, and the source column of each before its target column
  induction pairs with
  | nil =>
    refine iff_of_false nofun ?_
    rintro ⟨_, _, ⟨⟩, -⟩
  | cons pair rest ih =>
    simp only [firstUnknown_cons_iff]
    cases hsource : source.columnIndex? pair.sourceColumn with
    | none =>
      have hmissing := Table.columnIndex?_eq_none_iff.1 hsource
      simp [findPairs, findPair, hsource, hmissing, eq_comm]
    | some i =>
      have hfound := Table.hasColumn_of_columnIndex? hsource
      cases htarget : target.columnIndex? pair.targetColumn with
      | none =>
        have hmissing := Table.columnIndex?_eq_none_iff.1 htarget
        simp [findPairs, findPair, hsource, htarget, hfound, hmissing, eq_comm]
      | some j =>
        have hfound' := Table.hasColumn_of_columnIndex? htarget
        have hrest : findPairs spec source target (pair :: rest) = .error e ↔
            findPairs spec source target rest = .error e := by
          rw [findPairs, findPair, hsource, htarget]
          cases findPairs spec source target rest <;> simp
        rw [hrest, ih]
        simp [hfound, hfound']

/-! ### What becomes of a key

A key is left out, refused or described by the tables as they are without their lists of keys. These never
change while keys are attached. -/

theorem outcome?_eq_none_iff : s.outcome? spec = none ↔ s.covers spec = false := by
  simp [outcome?, covers]

theorem outcome?_eq_error_iff {e : SchemaError} : s.outcome? spec = some (.error e) ↔
    ∃ table column, s.Misses spec table column ∧
      e = .unknownForeignKeyColumn spec.name table column := by
  unfold outcome? Misses
  cases hends : s.endpoints? spec with
  | none => simp
  | some ends =>
    obtain ⟨source, target⟩ := ends
    have hmap : (findPairs spec source target spec.pairs).map (keyOf spec source target) = .error e ↔
        findPairs spec source target spec.pairs = .error e := by
      cases findPairs spec source target spec.pairs <;> simp [Except.map]
    rw [Option.map_some, Option.some_inj, hmap, findPairs_eq_error_iff]
    constructor
    · rintro ⟨table, column, hunknown, rfl⟩
      exact ⟨table, column, ⟨source, target, rfl, hunknown⟩, rfl⟩
    · rintro ⟨table, column, ⟨source', target', hsame, hunknown⟩, rfl⟩
      obtain ⟨rfl, rfl⟩ := Prod.mk.inj (Option.some.inj hsame)
      exact ⟨table, column, hunknown, rfl⟩

theorem misses_iff {table : QualifiedName} {column : String} : s.Misses spec table column ↔
    s.outcome? spec = some (.error (.unknownForeignKeyColumn spec.name table column)) := by
  rw [outcome?_eq_error_iff]
  constructor
  · intro h
    exact ⟨table, column, h, rfl⟩
  · rintro ⟨_, _, h, ⟨⟩⟩
    exact h

theorem describes_of_outcome? {key : ForeignKeyId → ForeignKey}
    (h : s.outcome? spec = some (.ok key)) (id : ForeignKeyId) : s.Describes spec (key id) := by
  obtain ⟨⟨source, target⟩, hends, hpairs⟩ := Option.map_eq_some_iff.1 h
  simp only at hpairs
  cases hfound : findPairs spec source target spec.pairs with
  | error e =>
    rw [hfound] at hpairs
    cases hpairs
  | ok found =>
    rw [hfound] at hpairs
    obtain rfl := Except.ok.inj hpairs
    exact ⟨source, target, found, hends, hfound, rfl⟩

/-- Attaching a key does what becomes of it. -/
theorem attachOne_eq (a : Attached) (spec : KeySpec) :
    attachOne a spec = match a.schema.outcome? spec with
      | none => .noting a (droppedWarning spec)
      | some (.error e) => .failing a e
      | some (.ok key) => .done ⟨a.schema.addKey key, a.keys ++ [a.schema.foreignKeys.length]⟩ := by
  unfold attachOne outcome?
  cases a.schema.endpoints? spec with
  | none => rfl
  | some ends =>
    obtain ⟨source, target⟩ := ends
    simp only [Option.map_some]
    cases findPairs spec source target spec.pairs <;> rfl

theorem findPairs_bare (source target : Table) (pairs : List PairSpec) :
    findPairs spec source.bare target.bare pairs = findPairs spec source target pairs := by
  induction pairs with
  | nil => rfl
  | cons pair rest ih =>
    rw [findPairs, findPairs, ih]
    rfl

/-- What becomes of a key depends on the tables, and not on the keys that are there. -/
theorem outcome?_congr (h : s'.bareTables = s.bareTables) (spec : KeySpec) :
    s'.outcome? spec = s.outcome? spec := by
  have hfind : ∀ (s : Schema) name,
      s.find? name = (s.bareTables.find? (·.name = name)).map (·.id) := by
    intro s name
    rw [bareTables, List.find?_map, Option.map_map]
    rfl
  have htable : ∀ (s : Schema) name, (s.find? name).bind (s.bareTables[·]?) =
      ((s.find? name).bind s.table?).map Table.bare := by
    intro s name
    rw [Option.map_bind]
    congr 1
    funext id
    exact List.getElem?_map
  -- the outcome reads tables without their keys, which is all that attaching leaves unchanged
  have houtcome : ∀ s : Schema, s.outcome? spec =
      ((s.find? spec.sourceTable).bind (s.bareTables[·]?)).bind fun source =>
        ((s.find? spec.targetTable).bind (s.bareTables[·]?)).map fun target =>
          (findPairs spec source target spec.pairs).map (keyOf spec source target) := by
    intro s
    rw [htable, htable, outcome?, endpoints?]
    simp only [Option.bind_eq_bind, Option.pure_def]
    cases (s.find? spec.sourceTable).bind s.table? with
    | none => rfl
    | some source =>
      cases (s.find? spec.targetTable).bind s.table? with
      | none => rfl
      | some target =>
        simp only [Option.bind_some, Option.map_some, findPairs_bare]
        rfl
  rw [houtcome, houtcome, hfind, hfind, hfind, hfind, h]

theorem bareTables_addKey (s : Schema) (key : ForeignKeyId → ForeignKey) :
    (s.addKey key).bareTables = s.bareTables := by
  apply List.ext_getElem?
  intro i
  have htable := s.table?_addKey key i
  unfold table? at htable
  rw [bareTables, bareTables, List.getElem?_map, List.getElem?_map, htable, Option.map_map]
  rfl

theorem bareTables_attachOne (a : Attached) (spec : KeySpec) :
    (attachOne a spec).state.schema.bareTables = a.schema.bareTables := by
  rw [attachOne_eq]
  split
  · rfl
  · rfl
  · exact bareTables_addKey ..

theorem failure_attachOne_eq_none_iff : (attachOne a spec).failure = none ↔
    ∀ table column, ¬a.schema.Misses spec table column := by
  have herror : (∃ table column, a.schema.Misses spec table column) ↔
      ∃ e, a.schema.outcome? spec = some (.error e) := by
    simp only [outcome?_eq_error_iff]
    exact ⟨fun ⟨table, column, h⟩ => ⟨_, table, column, h, rfl⟩,
      fun ⟨_, table, column, h, _⟩ => ⟨table, column, h⟩⟩
  simp only [← not_exists, herror]
  rw [attachOne_eq]
  cases houtcome : a.schema.outcome? spec with
  | none => simp
  | some outcome => cases outcome <;> simp

/-! ### Lists of keys

So each key of a list can be judged by the schema that the list began with. -/

/-- The keys attached so far, with others before them. -/
def Attached.after (ks : List ForeignKeyId) (a : Attached) : Attached := ⟨a.schema, ks ++ a.keys⟩

/-- What was attached before makes no difference but to the list of what was. -/
theorem run_attachOne_after (ks : List ForeignKeyId) (a : Attached) (specs : List KeySpec) :
    (Pass.run attachOne a specs).mapState (Attached.after ks) =
      Pass.run attachOne (a.after ks) specs := by
  apply Pass.mapState_run (P := fun _ => True) _ trivial
  intro a spec _
  refine ⟨?_, trivial⟩
  rw [attachOne_eq, attachOne_eq]
  simp only [Attached.after]
  cases a.schema.outcome? spec with
  | none => rfl
  | some outcome =>
    cases outcome with
    | error e => rfl
    | ok key => simp only [Pass.done, Pass.mapState, Attached.after, List.append_assoc]

/-- Attaching two lists of keys is attaching the one and then, if that has succeeded, the other. -/
theorem attach_append (s : Schema) (specs others : List KeySpec) :
    s.attach (specs ++ others) = (s.attach specs).andThen fun done =>
      (done.schema.attach others).mapState (Attached.after done.keys) := by
  rw [attach, Pass.run_append]
  congr 1
  funext done
  rw [attach, run_attachOne_after, Attached.after, List.append_nil]

section Run

variable (h : a.schema.bareTables = s.bareTables)

include h

theorem misses_congr {table : QualifiedName} {column : String} :
    a.schema.Misses spec table column ↔ s.Misses spec table column := by
  rw [misses_iff, misses_iff, outcome?_congr h]

theorem failure_run_attachOne_eq_none_iff : (Pass.run attachOne a specs).failure = none ↔
    ∀ spec ∈ specs, ∀ table column, ¬s.Misses spec table column := by
  induction specs generalizing a with
  | nil => simp
  | cons spec rest ih =>
    rw [Pass.failure_run_cons, List.forall_mem_cons, failure_attachOne_eq_none_iff,
      ih ((bareTables_attachOne a spec).trans h)]
    simp only [misses_congr h]

/-- A key whose tables are not both there is left out with a warning. -/
theorem attachOne_of_not_covers (hcovers : s.covers spec = false) :
    attachOne a spec = .noting a (droppedWarning spec) := by
  have houtcome : a.schema.outcome? spec = none := by
    rwa [outcome?_congr h, outcome?_eq_none_iff]
  rw [attachOne_eq, houtcome]

/-- Keys whose tables are not both there change nothing. -/
theorem state_run_attachOne_filter : (Pass.run attachOne a specs).state =
    (Pass.run attachOne a (specs.filter s.covers)).state := by
  induction specs generalizing a with
  | nil => rfl
  | cons spec rest ih =>
    have hrest := ih ((bareTables_attachOne a spec).trans h)
    cases hcovers : s.covers spec with
    | false =>
      have hstep := attachOne_of_not_covers h hcovers
      rw [List.filter_cons_of_neg (by simp [hcovers])]
      rw [Pass.state_run_cons (by rw [hstep, Pass.failure_noting]), hrest, hstep, Pass.state_noting]
    | true =>
      rw [List.filter_cons_of_pos hcovers]
      cases hfailure : (attachOne a spec).failure with
      | none => rw [Pass.state_run_cons hfailure, Pass.state_run_cons hfailure, hrest]
      | some e =>
        rw [Pass.state_run_cons_of_failure hfailure, Pass.state_run_cons_of_failure hfailure]

/-- A pass that succeeds adds a key for every specification whose tables are both there, under the next
number, and warns about the others. -/
theorem exists_of_run_attachOne (hok : (Pass.run attachOne a specs).failure = none) :
    ∃ ks, (Pass.run attachOne a specs).state.schema.foreignKeys = a.schema.foreignKeys ++ ks ∧
      List.Forall₂ s.Describes (specs.filter s.covers) ks ∧
      (Pass.run attachOne a specs).state.keys =
        a.keys ++ List.range' a.schema.foreignKeys.length ks.length ∧
      (Pass.run attachOne a specs).warnings = (specs.filter (!s.covers ·)).map droppedWarning := by
  -- on the specs; tables without their keys are the same throughout, so that `s` can stand for all states
  induction specs generalizing a with
  | nil => exact ⟨[], by simp [Pass.done]⟩
  | cons spec rest ih =>
    obtain ⟨hstep, hrest⟩ := (Pass.failure_run_cons a spec rest).1 hok
    obtain ⟨ks, hkeys, hdescribes, hids, hwarnings⟩ :=
      ih ((bareTables_attachOne a spec).trans h) hrest
    rw [Pass.state_run_cons hstep, Pass.run_cons, Pass.warnings_andThen hstep, hkeys, hids, hwarnings]
    have heq := attachOne_eq a spec
    rw [outcome?_congr h] at heq
    cases houtcome : s.outcome? spec with
    | none =>
      have hcovers := outcome?_eq_none_iff.1 houtcome
      rw [houtcome] at heq
      refine ⟨ks, by rw [heq]; rfl, ?_, by rw [heq]; rfl, ?_⟩
      · rwa [List.filter_cons_of_neg (by simp [hcovers])]
      · rw [heq, List.filter_cons_of_pos (by simp [hcovers])]
        rfl
    | some outcome =>
      have hcovers : s.covers spec = true := by
        rw [← Bool.not_eq_false, ← outcome?_eq_none_iff, houtcome]
        exact nofun
      rw [houtcome] at heq
      cases outcome with
      | error e =>
        rw [heq] at hstep
        cases hstep
      | ok key =>
        refine ⟨key a.schema.foreignKeys.length :: ks, ?_, ?_, ?_, ?_⟩
        · rw [heq]
          exact List.append_assoc ..
        · rw [List.filter_cons_of_pos hcovers]
          exact .cons (describes_of_outcome? houtcome _) hdescribes
        · rw [heq, List.length_cons, List.range'_succ]
          show (a.keys ++ [_]) ++ List.range' (a.schema.foreignKeys ++ [_]).length _ = _
          rw [List.append_assoc, List.length_append]
          rfl
        · rw [heq, List.filter_cons_of_neg (by simp [hcovers])]
          rfl

end Run

/-- A key that names an unknown column stops the pass, and leaves what the keys before it leave. -/
theorem attach_of_misses {before after : List KeySpec} {table : QualifiedName} {column : String}
    (hbefore : (s.attach before).failure = none) (hmisses : s.Misses spec table column) :
    s.attach (before ++ spec :: after) = ⟨(s.attach before).state, (s.attach before).warnings,
      some (.unknownForeignKeyColumn spec.name table column)⟩ := by
  have htables : (s.attach before).state.schema.bareTables = s.bareTables := by
    apply Pass.state_run_of_step (P := fun a : Attached => a.schema.bareTables = s.bareTables) _ rfl
    intro a spec _ ha
    exact (bareTables_attachOne a spec).trans ha
  have hstep : attachOne (s.attach before).state spec = .failing (s.attach before).state
      (.unknownForeignKeyColumn spec.name table column) := by
    rw [attachOne_eq, outcome?_congr htables, misses_iff.1 hmisses]
  rw [attach, Pass.run_append]
  show (s.attach before).andThen (Pass.run attachOne · (spec :: after)) = _
  generalize s.attach before = p at hbefore hstep
  obtain ⟨state, warnings, failure⟩ := p
  obtain rfl : failure = none := hbefore
  simp only [Pass.andThen, Pass.run_cons, hstep, Pass.failing, List.append_nil]

/-! ### The law -/

/-- **Attaching keys is a walk in which each key counts for itself.** Two lists are attached one after
the other. A list succeeds unless a key between tables of the schema names an unknown column; then each
key between tables of the schema has got the next number, in order, and each other key has had a warning
and no effect. The first key that names an unknown column stops the walk with the first such column, and
the schema is the one that the keys before it leave. -/
theorem attach_prefixes (s : Schema) :
    (∀ specs others, s.attach (specs ++ others) = (s.attach specs).andThen fun done =>
      (done.schema.attach others).mapState fun more => ⟨more.schema, done.keys ++ more.keys⟩) ∧
    (∀ specs, (s.attach specs).failure = none ↔
      ∀ spec ∈ specs, ∀ table column, ¬s.Misses spec table column) ∧
    (∀ specs, (s.attach specs).failure = none →
      (s.attach specs).state.keys =
        List.range' s.foreignKeys.length (specs.filter s.covers).length ∧
      (∃ ks, (s.attach specs).state.schema.foreignKeys = s.foreignKeys ++ ks ∧
        List.Forall₂ s.Describes (specs.filter s.covers) ks) ∧
      (s.attach specs).state = (s.attach (specs.filter s.covers)).state ∧
      (s.attach specs).warnings = (specs.filter (!s.covers ·)).map droppedWarning) ∧
    ∀ before spec after table column, (s.attach before).failure = none →
      s.Misses spec table column →
      s.attach (before ++ spec :: after) = ⟨(s.attach before).state, (s.attach before).warnings,
        some (.unknownForeignKeyColumn spec.name table column)⟩ := by
  refine ⟨attach_append s, fun specs => failure_run_attachOne_eq_none_iff rfl, ?_, ?_⟩
  · intro specs hok
    obtain ⟨ks, hkeys, hdescribes, hids, hwarnings⟩ := exists_of_run_attachOne rfl hok
    refine ⟨?_, ⟨ks, hkeys, hdescribes⟩, state_run_attachOne_filter rfl, hwarnings⟩
    rw [hdescribes.length_eq]
    exact hids.trans (List.nil_append _)
  · intro before spec after table column
    exact attach_of_misses

/-- Of four keys of folders the first leads out of the schema and the third leaves from a column that
folders do not have. -/
theorem attach_prefixes_sample :
    let folders : Schema := { empty "main" with tables := [folderTable] }
    let leaving : KeySpec := { folderKey "parent" with targetTable := ⟨"main", "disk"⟩ }
    (folders.attach [leaving, folderKey "parent", folderKey "parent"]).state.keys = [0, 1] ∧
      folders.attach ([leaving, folderKey "parent"] ++ folderKey "owner" :: [folderKey "parent"]) =
        ⟨(folders.attach [folderKey "parent"]).state, [droppedWarning leaving],
          some (.unknownForeignKeyColumn "within" ⟨"main", "folder"⟩ "owner")⟩ := by
  intro folders leaving
  obtain ⟨-, -, hkeys, hstops⟩ := attach_prefixes folders
  have hmisses : folders.Misses (folderKey "owner") ⟨"main", "folder"⟩ "owner" :=
    ⟨folderTable, folderTable, rfl, .source (Table.columnIndex?_eq_none_iff.1 rfl)⟩
  obtain ⟨-, -, hstate, hwarnings⟩ := hkeys [leaving, folderKey "parent"] (by decide)
  obtain ⟨hids, -⟩ := hkeys [leaving, folderKey "parent", folderKey "parent"] (by decide)
  refine ⟨hids.trans (by decide), ?_⟩
  rw [hstops _ _ _ _ _ (by decide) hmisses, hstate, hwarnings]
  rfl

end Schema

end FixturePlan
