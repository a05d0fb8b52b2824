import FixturePlan.Proofs.Schema.Dropping
import Std.Data.HashMap.Lemmas

/-!
# Tables by name

A schema finds its tables by a search through all of them. An index does the same: a map in which names
are entered one after the other, each under the next number, and which refuses a name that it has already.
It refuses the first listed name that came up before (`NameIndex.enterAll_eq_firstDuplicate?`), and of
every well-formed schema it says where each name is found (`NameIndex.exists_enterAll`), hence of every
schema that is built (`NameIndex.exists_enterAll_of_build`).
-/

namespace FixturePlan

/-- The numbers of the names entered so far. -/
structure NameIndex where
  count : Nat
  ids : Std.HashMap QualifiedName TableId

namespace NameIndex

/-- The index without names. -/
def empty : NameIndex := ⟨0, ∅⟩

/-- Enter a name under the next number, unless it has been entered before. -/
def enter (index : NameIndex) (name : QualifiedName) : Except QualifiedName NameIndex :=
  if index.ids.contains name then .error name
  else .ok ⟨index.count + 1, index.ids.insert name index.count⟩

/-- Enter some names one after the other. -/
def enterAll (index : NameIndex) (names : List QualifiedName) : Except QualifiedName NameIndex :=
  names.foldlM enter index

variable {index index' : NameIndex} {name : QualifiedName} {names : List QualifiedName}

theorem enterAll_cons (index : NameIndex) (name : QualifiedName) (names : List QualifiedName) :
    index.enterAll (name :: names) = (index.enter name).bind (·.enterAll names) := rfl

/-! ### Names that came up before

Names are entered in the order of the list, so that the first one refused is the first that repeats
another. -/

/-- The index and the search for a repeated name refuse the same name. -/
theorem enterAll_eq_error_iff {infos : List TableInfo} {seen : List QualifiedName}
    (hseen : ∀ name, index.ids.contains name = seen.contains name) :
    index.enterAll (infos.map Schema.qualified) = .error name ↔
      Schema.firstDuplicate?.go seen infos = some name := by
  induction infos generalizing index seen with
  | nil => exact ⟨nofun, nofun⟩
  | cons info rest ih =>
    rw [List.map_cons, enterAll_cons, enter, hseen, Schema.firstDuplicate?.go]
    by_cases hold : seen.contains (Schema.qualified info) = true
    · rw [if_pos hold, if_pos hold]
      exact ⟨fun h => congrArg some (Except.error.inj h), fun h => congrArg _ (Option.some.inj h)⟩
    · rw [if_neg hold, if_neg hold]
      refine ih fun other => ?_
      rw [Std.HashMap.contains_insert, hseen, List.contains_cons, Bool.beq_comm]

theorem enterAll_eq_firstDuplicate? {infos : List TableInfo} :
    empty.enterAll (infos.map Schema.qualified) = .error name ↔
      Schema.firstDuplicate? infos = some name :=
  enterAll_eq_error_iff fun _ => Std.HashMap.contains_empty

/-! ### Names that are found

While all names differ, an index has each name under its place, which is where a search finds it. -/

/-- What an index says after some names have been entered. -/
structure Lists (index : NameIndex) (names : List QualifiedName) : Prop where
  count_eq : index.count = names.length
  getElem?_eq : ∀ name, index.ids[name]? = names.idxOf? name

theorem Lists.enter (h : index.Lists names) (hnew : name ∉ names) :
    ∃ index', index.enter name = .ok index' ∧ index'.Lists (names ++ [name]) := by
  have hnone : index.ids.contains name = false := by
    rw [Std.HashMap.contains_eq_isSome_getElem?, h.getElem?_eq, List.idxOf?_eq_none_iff.2 hnew]
    rfl
  refine ⟨_, if_neg (Bool.eq_false_iff.1 hnone), ?_, fun other => ?_⟩
  · rw [h.count_eq, List.length_append, List.length_singleton]
  · rw [Std.HashMap.getElem?_insert, h.getElem?_eq, h.count_eq]
    simp only [List.idxOf?, List.findIdx?_append]
    by_cases heq : name = other
    · subst heq
      have hbefore : names.findIdx? (· == name) = none := List.idxOf?_eq_none_iff.2 hnew
      rw [hbefore]
      simp
    · simp [heq]

/-- Different names are all entered. -/
theorem Lists.enterAll {before : List QualifiedName} (h : index.Lists before)
    (hnodup : (before ++ names).Nodup) :
    ∃ index', index.enterAll names = .ok index' ∧ index'.Lists (before ++ names) := by
  induction names generalizing index before with
  | nil => exact ⟨index, rfl, by rwa [List.append_nil]⟩
  | cons name rest ih =>
    have hnew : name ∉ before := fun hmem =>
      (List.nodup_append.1 hnodup).2.2 name hmem name List.mem_cons_self rfl
    obtain ⟨index₁, hone, hlists⟩ := h.enter hnew
    rw [← List.singleton_append, ← List.append_assoc] at hnodup ⊢
    obtain ⟨index', hrest, hall⟩ := ih hlists hnodup
    refine ⟨index', ?_, hall⟩
    rw [List.singleton_append, enterAll_cons, hone]
    exact hrest

end NameIndex

namespace Schema

variable {s : Schema}

theorem WellFormed.nodup_names (hs : s.WellFormed) : (s.tables.map (·.name)).Nodup := by
  refine List.nodup_iff_injective_getElem.2 ?_
  rintro ⟨i, hi⟩ ⟨j, hj⟩ hname
  rw [List.length_map] at hi hj
  simp only [List.getElem_map] at hname
  have hfound : ∀ i (hi : i < s.tables.length), s.find? s.tables[i].name = some i := fun i hi =>
    hs.find?_eq_some_iff.2 ⟨_, List.getElem?_eq_getElem hi, rfl⟩
  have heq := hfound i hi
  rw [hname, hfound j hj] at heq
  exact Fin.ext (Option.some.inj heq).symm

/-- A name is found at its place among the names of the tables. -/
theorem WellFormed.find?_eq_idxOf? (hs : s.WellFormed) (name : QualifiedName) :
    s.find? name = (s.tables.map (·.name)).idxOf? name := by
  cases hfind : s.find? name with
  | none =>
    refine (List.idxOf?_eq_none_iff.2 fun hmem => ?_).symm
    obtain ⟨t, ht, rfl⟩ := List.mem_map.1 hmem
    rw [hs.find?_name t ht] at hfind
    cases hfind
  | some id =>
    obtain ⟨t, ht, rfl⟩ := hs.find?_eq_some_iff.1 hfind
    obtain ⟨hlt, rfl⟩ := List.getElem?_eq_some_iff.1 ht
    symm
    rw [List.idxOf?, List.findIdx?_eq_some_iff_getElem]
    refine ⟨by rwa [List.length_map], by simp, fun j hj hsame => ?_⟩
    have hlt' : j < s.tables.length := Nat.lt_trans hj hlt
    have hname : s.tables[j].name = s.tables[id].name := by simpa using hsame
    have hfound := hs.find?_eq_some_iff.2 ⟨_, List.getElem?_eq_getElem hlt', rfl⟩
    rw [hname, hfind] at hfound
    exact Nat.ne_of_gt hj (Option.some.inj hfound)

end Schema

namespace NameIndex

variable {s : Schema}

/-- The names of the tables of a well-formed schema can be entered, and each is found by the index where
the search finds it. -/
theorem exists_enterAll (hs : s.WellFormed) : ∃ index,
    empty.enterAll (s.tables.map (·.name)) = .ok index ∧ ∀ name, index.ids[name]? = s.find? name := by
  have hempty : empty.Lists [] := ⟨rfl, fun _ => Std.HashMap.getElem?_empty⟩
  obtain ⟨index, hall, hlists⟩ := hempty.enterAll hs.nodup_names
  exact ⟨index, hall, fun name => (hlists.getElem?_eq name).trans (hs.find?_eq_idxOf? name).symm⟩

/-- So it is for the listed tables of every schema that is built. -/
theorem exists_enterAll_of_build {source : Source} {exclude : List Text.Pattern} {place : String}
    (h : (Schema.build source exclude place).result = .ok s) : ∃ index,
    empty.enterAll (Schema.inspectedNames source exclude place) = .ok index ∧
      ∀ name, index.ids[name]? = s.find? name := by
  rw [← Schema.map_name_of_build h]
  exact exists_enterAll (Schema.wellFormed_of_build h)

end NameIndex

end FixturePlan
