import FixturePlan.Proofs.Schema.Grouping

/-!
# Aggregating reported pairs

Where a driver reports the pairs of one constraint after those of another, and no two constraints have
the same name, aggregation gives back the constraints: one key for each that has a pair at all
(`KeySpec.aggregate_flatten`).
-/

namespace FixturePlan.KeySpec

variable {table : TableInfo} {groups : List (List ImportedKey)}

/-- The key that the pairs of one constraint make. Its first pair gives it its name and its target. -/
def ofGroup? (table : TableInfo) : List ImportedKey → Option KeySpec
  | [] => none
  | first :: rest =>
    some
      { name := nameOf table first
        sourceTable := ⟨table.schema, table.name⟩
        targetTable := ⟨first.targetSchema, first.targetTable⟩
        pairs := (first :: rest).map pairOf }

/-- The pairs of one constraint share its name, and no two constraints do. -/
structure Grouped (table : TableInfo) (groups : List (List ImportedKey)) : Prop where
  same : ∀ g ∈ groups, ∀ r ∈ g, ∀ r' ∈ g, nameOf table r = nameOf table r'
  apart : groups.Pairwise fun g g' => ∀ r ∈ g, ∀ r' ∈ g', nameOf table r ≠ nameOf table r'

/-- The rows of the name of the first constraint are the rows of it. -/
theorem rowsOf_flatten {first : ImportedKey} {others : List ImportedKey}
    (h : Grouped table ((first :: others) :: groups)) :
    rowsOf table (first :: (others ++ groups.flatten)) (nameOf table first) = first :: others ∧
      rowsBut table (others ++ groups.flatten) (nameOf table first) = groups.flatten := by
  have hsame : ∀ r ∈ others, nameOf table r = nameOf table first := fun r hr =>
    h.same _ List.mem_cons_self r (List.mem_cons_of_mem _ hr) first List.mem_cons_self
  have hapart : ∀ r ∈ groups.flatten, nameOf table r ≠ nameOf table first := by
    intro r hr
    obtain ⟨g, hg, hr⟩ := List.mem_flatten.1 hr
    exact ((List.pairwise_cons.1 h.apart).1 g hg first List.mem_cons_self r hr).symm
  constructor
  · rw [rowsOf_cons_of_eq table rfl, rowsOf, List.filter_append,
      List.filter_eq_self.2 (by simpa using hsame), List.filter_eq_nil_iff.2 (by simpa using hapart),
      List.append_nil]
  · rw [rowsBut, List.filter_append, List.filter_eq_nil_iff.2 (by simpa using hsame),
      List.filter_eq_self.2 (by simpa using hapart), List.nil_append]

/-- Pairs of constraints without names of their own belong to them by their places. -/
theorem grouped_of_places {α : Type} {f : α × Nat → List ImportedKey}
    (hname : ∀ entry, ∀ row ∈ f entry, nameOf table row = syntheticName table.name (entry.2 + 1))
    (as : List α) : Grouped table (as.zipIdx.map f) := by
  constructor
  · intro g hg row hrow row' hrow'
    obtain ⟨entry, -, rfl⟩ := List.mem_map.1 hg
    rw [hname entry row hrow, hname entry row' hrow']
  · have hplaces : (as.zipIdx.map (·.2)).Nodup := by
      rw [List.zipIdx_map_snd]
      exact List.nodup_range' _
    rw [List.pairwise_map]
    refine (List.pairwise_map.1 hplaces).imp ?_
    intro entry entry' hne row hrow row' hrow' heq
    rw [hname entry row hrow, hname entry' row' hrow', syntheticName_inj] at heq
    exact hne (Nat.succ.inj heq)

/-- Pairs that are reported constraint by constraint make a key for each constraint. -/
theorem aggregate_flatten (h : Grouped table groups) :
    aggregate table groups.flatten = (groups.filterMap (ofGroup? table)).map ordered := by
  induction groups with
  | nil => rfl
  | cons g rest ih =>
    have hrest : Grouped table rest :=
      ⟨(List.forall_mem_cons.1 h.same).2, (List.pairwise_cons.1 h.apart).2⟩
    cases g with
    | nil => exact ih hrest
    | cons first others =>
      obtain ⟨hof, hbut⟩ := rowsOf_flatten h
      rw [List.flatten_cons, List.cons_append, aggregate_cons, hof, hbut, ih hrest]
      rfl

end FixturePlan.KeySpec
