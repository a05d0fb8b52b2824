import FixturePlan.Proofs.Report
import FixturePlan.Proofs.Schema.Aggregation
import Mathlib.Data.List.Pairwise

/-!
# Constraints that are mixed up

Reported rows are shared out among the keys that are made of them (`KeySpec.SharedOut`). A constraint
without a name gets one from its table and its place, and the database may have given just that name to
another constraint. Two rows share a key if and only if they belong to one constraint or to two of which
one has taken the name of the other in this way (`KeySpec.sharedOut_by_constraint`). A constraint that has
a name can therefore end up in one key with another that has none (`KeySpec.aggregate_takingRow_namelessRow`).
-/

namespace FixturePlan.KeySpec

/-- Two rows belong to one constraint of their table: both give its name, or it has none and both give its
place. -/
def OfOneConstraint (r r' : ImportedKey) : Prop :=
  r.constraint = r'.constraint ∧ (r.constraint = none → r.ordinal = r'.ordinal)

/-- The constraint of a row has a name, which is the one that the constraint of another row gets for want
of its own. -/
def TakesName (table : TableInfo) (r r' : ImportedKey) : Prop :=
  r.constraint = some (syntheticName table.name r'.ordinal) ∧ r'.constraint = none

instance (r r' : ImportedKey) : Decidable (OfOneConstraint r r') :=
  inferInstanceAs (Decidable (_ ∧ _))

instance (table : TableInfo) (r r' : ImportedKey) : Decidable (TakesName table r r') :=
  inferInstanceAs (Decidable (_ ∧ _))

/-- Every row goes into one of the groups, and every key is made of the rows of its own group, which all
go by its name. -/
structure SharedOut (table : TableInfo) (rows : List ImportedKey)
    (groups : List (List ImportedKey)) : Prop where
  perm : groups.flatten.Perm rows
  made : List.Forall₂
    (fun group spec => MadeOf table group spec ∧ ∀ r ∈ group, nameOf table r = spec.name)
    groups (aggregate table rows)

variable {table : TableInfo} {rows : List ImportedKey} {groups : List (List ImportedKey)}
  {r r' : ImportedKey}

/-- Rows go by one name if they belong to one constraint, or if one has taken the name of the other. -/
theorem nameOf_eq_iff : nameOf table r = nameOf table r' ↔
    OfOneConstraint r r' ∨ TakesName table r r' ∨ TakesName table r' r := by
  unfold nameOf OfOneConstraint TakesName
  cases r.constraint with
  | none =>
    cases r'.constraint with
    | none => simp [syntheticName_inj]
    | some name' => simp [eq_comm]
  | some name =>
    cases r'.constraint with
    | none => simp
    | some name' => simp

theorem not_ofOneConstraint_of_takesName (h : TakesName table r r') : ¬OfOneConstraint r r' := by
  rintro ⟨hname, -⟩
  rw [h.1, h.2] at hname
  cases hname

/-! ### Groups of rows

Rows go together by the name they are given, be it their own or one made for them. -/

/-- No other rows than those of its name play a part in a key. -/
theorem MadeOf.rowsOf {spec : KeySpec} (h : MadeOf table rows spec) :
    MadeOf table (rowsOf table rows spec.name) spec := by
  have hrows : KeySpec.rowsOf table (KeySpec.rowsOf table rows spec.name) spec.name =
      KeySpec.rowsOf table rows spec.name := by
    rw [KeySpec.rowsOf, List.filter_filter]
    simp only [Bool.and_self]
  exact ⟨h.source_eq, hrows.symm ▸ h.exists_first, hrows.symm ▸ h.sorted⟩

/-- Rows can be shared out. -/
theorem exists_sharedOut (table : TableInfo) (rows : List ImportedKey) :
    ∃ groups, SharedOut table rows groups := by
  induction rows using inductionByName table with
  | nil => exact ⟨[], .nil, .nil⟩
  | cons row rest ih =>
    obtain ⟨groups, hperm, hmade⟩ := ih
    refine ⟨rowsOf table (row :: rest) (nameOf table row) :: groups, ?_, ?_⟩
    · rw [← rowsBut_cons_of_eq table rfl] at hperm
      exact (hperm.append_left _).trans (List.filter_append_perm _ _)
    · obtain ⟨first, hfirst, hname⟩ : ∃ first, aggregate table (row :: rest) =
          first :: aggregate table (rowsBut table rest (nameOf table row)) ∧
          first.name = nameOf table row := ⟨_, aggregate_cons table row rest, rfl⟩
      have hmadeOf : MadeOf table (row :: rest) first :=
        madeOf_of_mem (hfirst ▸ List.mem_cons_self)
      rw [hfirst]
      refine .cons ⟨hname ▸ hmadeOf.rowsOf, ?_⟩ hmade
      intro r hr
      exact (eq_of_beq (List.mem_filter.1 hr).2).trans hname.symm

namespace SharedOut

variable (h : SharedOut table rows groups)

include h

theorem mem_rows {g : List ImportedKey} (hg : g ∈ groups) (hr : r ∈ g) : r ∈ rows :=
  h.perm.mem_iff.1 (List.mem_flatten.2 ⟨g, hg, hr⟩)

theorem exists_group (hr : r ∈ rows) : ∃ g ∈ groups, r ∈ g :=
  List.mem_flatten.1 (h.perm.mem_iff.2 hr)

/-- Each group has a name of its own. -/
theorem grouped : Grouped table groups := by
  have hnodup := nodup_names_aggregate table rows
  obtain ⟨-, hmade⟩ := h
  generalize aggregate table rows = specs at hmade hnodup
  induction hmade with
  | nil => exact ⟨nofun, .nil⟩
  | @cons g spec groups specs hg hrest ih =>
    obtain ⟨hnew, hnodup⟩ := List.nodup_cons.1 hnodup
    obtain ⟨hsame, hapart⟩ := ih hnodup
    refine ⟨List.forall_mem_cons.2 ⟨?_, hsame⟩, List.pairwise_cons.2 ⟨?_, hapart⟩⟩
    · intro r hr r' hr'
      rw [hg.2 r hr, hg.2 r' hr']
    · intro g' hg' r hr r' hr' hname
      obtain ⟨i, hi⟩ := List.mem_iff_getElem?.1 hg'
      obtain ⟨spec', hspec', -, hg'⟩ := exists_getElem?_of_forall₂ hrest hi
      rw [hg.2 r hr, hg' r' hr'] at hname
      exact hnew (List.mem_map.2 ⟨spec', List.mem_of_getElem? hspec', hname.symm⟩)

/-- Two rows are in one group if they go by one name. -/
theorem exists_common_group_iff (hr : r ∈ rows) (hr' : r' ∈ rows) :
    (∃ g ∈ groups, r ∈ g ∧ r' ∈ g) ↔ nameOf table r = nameOf table r' := by
  constructor
  · rintro ⟨g, hg, hmem, hmem'⟩
    exact h.grouped.same g hg r hmem r' hmem'
  · intro hname
    obtain ⟨g, hg, hmem⟩ := h.exists_group hr
    obtain ⟨g', hg', hmem'⟩ := h.exists_group hr'
    by_cases hne : g = g'
    · exact ⟨g, hg, hmem, hne ▸ hmem'⟩
    · -- two groups would have two names
      have hsymm : Std.Symm fun g g' : List ImportedKey =>
          ∀ r ∈ g, ∀ r' ∈ g', nameOf table r ≠ nameOf table r' :=
        ⟨fun _ _ hapart r hr r' hr' => (hapart r' hr' r hr).symm⟩
      exact absurd hname (h.grouped.apart.forall hg hg' hne r hmem r' hmem')

end SharedOut

/-! ### The law

Two constraints get one name only if one has the name that is made for the other. -/

/-- **Rows share a key if and only if they belong to one constraint, or to two of which one has a name
that the other gets for want of its own.** So constraints are kept apart if and only if none takes the name
of another. -/
theorem sharedOut_by_constraint (table : TableInfo) (rows : List ImportedKey) :
    (∃ groups, SharedOut table rows groups) ∧
    ∀ groups, SharedOut table rows groups →
      (∀ r ∈ rows, ∀ r' ∈ rows, (∃ g ∈ groups, r ∈ g ∧ r' ∈ g) ↔
        OfOneConstraint r r' ∨ TakesName table r r' ∨ TakesName table r' r) ∧
      ((∀ g ∈ groups, ∀ r ∈ g, ∀ r' ∈ g, OfOneConstraint r r') ↔
        ∀ r ∈ rows, ∀ r' ∈ rows, ¬TakesName table r r') := by
  refine ⟨exists_sharedOut table rows, fun groups h => ?_⟩
  have hshared : ∀ r ∈ rows, ∀ r' ∈ rows, (∃ g ∈ groups, r ∈ g ∧ r' ∈ g) ↔
      OfOneConstraint r r' ∨ TakesName table r r' ∨ TakesName table r' r := by
    intro r hr r' hr'
    rw [h.exists_common_group_iff hr hr', nameOf_eq_iff]
  refine ⟨hshared, ?_, ?_⟩
  -- rows of one group belong to one constraint, unless one of them takes the name of another
  · intro hkept r hr r' hr' htaken
    obtain ⟨g, hg, hmem, hmem'⟩ := (hshared r hr r' hr').2 (Or.inr (Or.inl htaken))
    exact not_ofOneConstraint_of_takesName htaken (hkept g hg r hmem r' hmem')
  · intro hfree g hg r hmem r' hmem'
    have hr := h.mem_rows hg hmem
    have hr' := h.mem_rows hg hmem'
    rcases (hshared r hr r' hr').1 ⟨g, hg, hmem, hmem'⟩ with hone | htaken | htaken
    · exact hone
    · exact absurd htaken (hfree r hr r' hr')
    · exact absurd htaken (hfree r' hr' r hr)

/-! ### A sample

The first constraint of a table has a name, which the second, that has none, gets as well. -/

/-- The row of the constraint that has a name. -/
def takingRow : ImportedKey := ⟨"fk_child_2", 1, "a", "main", "p", "id", 1⟩

/-- The row of the constraint that has none. -/
def namelessRow : ImportedKey := ⟨none, 2, "b", "main", "q", "id", 1⟩

theorem sharedOut_by_constraint_sample :
    (∃ groups, SharedOut (.table "main" "leg") legRows groups ∧
      ∀ g ∈ groups, ∀ r ∈ g, ∀ r' ∈ g, OfOneConstraint r r') ∧
    ∃ groups, SharedOut (.table "main" "child") [takingRow, namelessRow] groups ∧
      ∃ g ∈ groups, takingRow ∈ g ∧ namelessRow ∈ g := by
  obtain ⟨⟨groups, h⟩, hlaw⟩ := sharedOut_by_constraint (.table "main" "leg") legRows
  obtain ⟨⟨groups', h'⟩, hlaw'⟩ :=
    sharedOut_by_constraint (.table "main" "child") [takingRow, namelessRow]
  refine ⟨⟨groups, h, (hlaw groups h).2.2 (by decide)⟩, groups', h', ?_⟩
  exact ((hlaw' groups' h').1 takingRow (by decide) namelessRow (by decide)).2 (by decide)

/-- The two constraints are made into one key, which leads to the table of the first. -/
theorem aggregate_takingRow_namelessRow :
    aggregate (.table "main" "child") [takingRow, namelessRow] =
      [⟨"fk_child_2", ⟨"main", "child"⟩, ⟨"main", "p"⟩, [⟨1, "a", "id"⟩, ⟨1, "b", "id"⟩]⟩] ∧
      ¬OfOneConstraint takingRow namelessRow := by
  have hmade : MadeOf (.table "main" "child") [takingRow, namelessRow]
      ⟨"fk_child_2", ⟨"main", "child"⟩, ⟨"main", "p"⟩, [⟨1, "a", "id"⟩, ⟨1, "b", "id"⟩]⟩ :=
    ⟨rfl, ⟨takingRow, by decide, rfl⟩, by decide, fun _ => rfl⟩
  have hnames : (aggregate (.table "main" "child") [takingRow, namelessRow]).map (·.name) =
      ["fk_child_2"] := (map_name_aggregate _ _).trans (by decide)
  obtain ⟨spec, hspec, -⟩ := List.map_eq_singleton_iff.1 hnames
  have hmem := mem_aggregate_iff.2 hmade
  rw [hspec, List.mem_singleton] at hmem
  exact ⟨hspec.trans (congrArg (fun spec => [spec]) hmem.symm), by decide⟩

end FixturePlan.KeySpec
