import FixturePlan.Entity.Layout
import Std.Data.String.ToNat

/-!
# Names of references, and values that are kept

The references of a layout have different names, whatever the naming asks for
(`nodup_names_nameReferences`). A column that the matching of some link needs is never left to links
alone (`isConsumed_of_keepsValue`).
-/

namespace FixturePlan.Layout

/-! ### Free names

The names that are tried differ, and there are more of them than names that are taken; so one of them is
free, and the least of these is chosen. -/

/-- The numbered names that are tried in the place of a taken one. -/
def candidates (taken : List String) (name : String) : List String :=
  (List.range (taken.length + 1)).map fun i => name ++ toString (i + 2)

theorem freshName_eq (taken : List String) (name : String) :
    freshName taken name =
      if taken.contains name then ((candidates taken name).find? (!taken.contains ·)).getD name
      else name := rfl

theorem nodup_candidates (taken : List String) (name : String) : (candidates taken name).Nodup := by
  refine List.Pairwise.map _ ?_ List.nodup_range
  intro i j hne heq
  have hrepr : (i + 2).repr = (j + 2).repr := (String.append_right_inj name).1 heq
  exact hne (Nat.add_right_cancel (Nat.repr_injective hrepr))

/-- Of the candidates there are more than can be taken. -/
theorem exists_free_candidate (taken : List String) (name : String) :
    ∃ c ∈ candidates taken name, c ∉ taken := by
  apply Classical.byContradiction
  intro hall
  have hsub : candidates taken name ⊆ taken := fun c hc =>
    Classical.byContradiction fun hfree => hall ⟨c, hc, hfree⟩
  have hlength := List.Nodup.length_le_of_subset (nodup_candidates taken name) hsub
  rw [candidates, List.length_map, List.length_range] at hlength
  exact Nat.not_succ_le_self _ hlength

/-- The name that a reference gets when some names are taken: its natural one, or that with the least
number from 2 on that makes it free. -/
structure NamedAfter (taken : List String) (natural name : String) : Prop where
  eq_natural : natural ∉ taken → name = natural
  exists_number : natural ∈ taken → ∃ n ≥ 2, name = natural ++ toString n ∧ name ∉ taken ∧
    ∀ m ≥ 2, m < n → natural ++ toString m ∈ taken

theorem namedAfter_freshName (taken : List String) (natural : String) :
    NamedAfter taken natural (freshName taken natural) where
  eq_natural hfree := by
    rw [freshName_eq, if_neg (by simpa using hfree)]
  exists_number htaken := by
    obtain ⟨free, hmem, hfree⟩ := exists_free_candidate taken natural
    have hsome : ((candidates taken natural).find? (!taken.contains ·)).isSome :=
      List.find?_isSome.2 ⟨free, hmem, by simpa using hfree⟩
    obtain ⟨name, hname⟩ := Option.isSome_iff_exists.1 hsome
    obtain ⟨hnew, i, hi, rfl, hbefore⟩ := List.find?_eq_some_iff_getElem.1 hname
    have hcandidate : ∀ j (hj : j < (candidates taken natural).length),
        (candidates taken natural)[j] = natural ++ toString (j + 2) := by
      simp [candidates]
    rw [freshName_eq, if_pos (by simpa using htaken), hname, Option.getD_some]
    refine ⟨i + 2, Nat.le_add_left 2 i, hcandidate i hi, by simpa using hnew, ?_⟩
    intro m hm hlt
    -- the numbers before are those of the candidates that were passed over
    obtain ⟨j, rfl⟩ := Nat.exists_eq_add_of_le' hm
    have hj : j < i := Nat.lt_of_add_lt_add_right hlt
    have hpassed := hbefore j hj
    rw [hcandidate j (Nat.lt_trans hj hi)] at hpassed
    simpa using hpassed

theorem freshName_not_mem (taken : List String) (name : String) : freshName taken name ∉ taken := by
  have hnamed := namedAfter_freshName taken name
  by_cases htaken : name ∈ taken
  · obtain ⟨-, -, -, hnew, -⟩ := hnamed.exists_number htaken
    exact hnew
  · rwa [hnamed.eq_natural htaken]

/-! ### References

References are named one after the other, each apart from those before it. -/

theorem map_fst_nameReferences (name : ForeignKey → String) (taken : List String)
    (keys : List ForeignKey) : (nameReferences name taken keys).map (·.1) = keys := by
  induction keys generalizing taken with
  | nil => rfl
  | cons key rest ih => rw [nameReferences, List.map_cons, ih]

/-- References are named apart from each other and from the names taken before. -/
theorem nodup_names_nameReferences (name : ForeignKey → String) (taken : List String)
    (keys : List ForeignKey) :
    ((nameReferences name taken keys).map (·.2)).Nodup ∧
      ∀ n ∈ (nameReferences name taken keys).map (·.2), n ∉ taken := by
  induction keys generalizing taken with
  | nil => simp [nameReferences]
  | cons key rest ih =>
    obtain ⟨hnodup, hfree⟩ := ih (freshName taken (name key) :: taken)
    rw [nameReferences, List.map_cons]
    refine ⟨List.nodup_cons.2 ⟨fun hmem => hfree _ hmem List.mem_cons_self, hnodup⟩, ?_⟩
    intro n hn
    rcases List.mem_cons.1 hn with rfl | hn
    · exact freshName_not_mem taken (name key)
    · exact fun hmem => hfree n hn (List.mem_cons_of_mem _ hmem)

variable (s : Schema) (naming : Naming) (t : Table)

theorem map_fst_references : (ofTable s naming t).references.map (·.1) = s.outgoing t :=
  map_fst_nameReferences _ _ _

theorem nodup_names_references : ((ofTable s naming t).references.map (·.2)).Nodup :=
  (nodup_names_nameReferences _ _ _).1

theorem mem_outgoing_of_mem_references {entry : ForeignKey × String}
    (h : entry ∈ (ofTable s naming t).references) : entry.1 ∈ s.outgoing t :=
  map_fst_references s naming t ▸ List.mem_map_of_mem h

theorem exists_mem_references {k : ForeignKey} (h : k ∈ s.outgoing t) :
    ∃ name, (k, name) ∈ (ofTable s naming t).references := by
  rw [← map_fst_references s naming t] at h
  obtain ⟨⟨k', name⟩, hmem, rfl⟩ := List.mem_map.1 h
  exact ⟨name, hmem⟩

/-! ### Values

A column is left to the links only if neither its own table nor another needs it as a value. -/

theorem getElem?_attributes (column : Nat) :
    (ofTable s naming t).attributes[column]? =
      (t.columns[column]?).map (naming.attributeName t) := by
  rw [ofTable, List.getElem?_map]

theorem getElem?_inForeignKey {column : Nat} (hcolumn : column < t.columns.length) :
    (ofTable s naming t).inForeignKey[column]? = some (s.inForeignKey t column) := by
  rw [ofTable, List.getElem?_map, List.getElem?_range hcolumn, Option.map_some]

/-- A column is left to links only if some link that is attached belongs to it. -/
theorem exists_of_isConsumed {l : Layout} {attached : List Bool} {column : Nat}
    (h : l.isConsumed attached column = true) :
    ∃ entry, (entry, true) ∈ l.references.zip attached ∧ entry.1.hasSource column = true := by
  simp only [isConsumed, Bool.and_eq_true, Bool.not_eq_true', List.isEmpty_eq_false_iff_exists_mem]
    at h
  obtain ⟨⟨-, ⟨entry, isAttached⟩, hmem⟩, hall⟩ := h
  obtain ⟨hzip, hsource⟩ := List.mem_filter.1 hmem
  obtain rfl : isAttached = true := List.all_eq_true.1 hall _ hmem
  exact ⟨entry, hzip, hsource⟩

/-- The value of a key column and of the target of a foreign key stays beside the links. -/
theorem isConsumed_of_keepsValue {column : Nat} (hcolumn : column < t.columns.length)
    (h : (t.inPrimaryKey column || (s.incoming t).any (·.hasTarget column)) = true)
    (attached : List Bool) : (ofTable s naming t).isConsumed attached column = false := by
  have hkeeps : (ofTable s naming t).keepsValue[column]? = some true := by
    rw [ofTable, List.getElem?_map, List.getElem?_range hcolumn, Option.map_some, h]
  simp [isConsumed, hkeeps]

end FixturePlan.Layout
