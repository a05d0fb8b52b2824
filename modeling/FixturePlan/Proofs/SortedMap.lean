import FixturePlan.SortedMap
import Mathlib.Data.List.Nodup

/-!
# Look-up in sorted maps

What each operation of a `SortedMap` does to `find?`. As the keys of a map ascend, no key occurs
twice, so a look-up finds an entry if and only if the entry is there (`find?_eq_some_iff`).
-/

namespace FixturePlan.SortedMap

variable {κ α β : Type} [LT κ]

theorem values_mapValues (f : α → β) (m : SortedMap κ α) :
    (m.mapValues fun _ a => f a).values = m.values.map f := by
  simp [values, mapValues]

section Entries

variable [KeyOrder κ]

/-- Two entries of one map with the same key are the same entry. -/
theorem eq_of_mem_of_key_eq (m : SortedMap κ α) {d e : κ × α} (hd : d ∈ m.entries)
    (he : e ∈ m.entries) (hkey : d.1 = e.1) : d = e := by
  obtain ⟨entries, hsorted⟩ := m
  simp only at hd he
  induction entries with
  | nil => simp at hd
  | cons first rest ih =>
    obtain ⟨hfirst, hrest⟩ := List.pairwise_cons.1 hsorted
    rcases List.mem_cons.1 hd with hd | hd <;> rcases List.mem_cons.1 he with he | he
    · exact hd.trans he.symm
    · exact absurd (hd ▸ hkey ▸ hfirst e he) (KeyOrder.irrefl _)
    · exact absurd (he ▸ hkey ▸ hfirst d hd) (KeyOrder.irrefl _)
    · exact ih hrest hd he

variable [DecidableEq κ]

theorem find?_eq_some_iff {m : SortedMap κ α} {k : κ} {a : α} :
    m.find? k = some a ↔ (k, a) ∈ m.entries := by
  unfold find?
  constructor
  · intro h
    obtain ⟨e, he, rfl⟩ := Option.map_eq_some_iff.1 h
    have hk : e.1 = k := by simpa using List.find?_some he
    exact hk ▸ List.mem_of_find?_eq_some he
  · intro h
    cases hfind : m.entries.find? fun e => e.1 = k with
    | none => simpa using List.find?_eq_none.1 hfind _ h
    | some e =>
      have hk : e.1 = k := by simpa using List.find?_some hfind
      have he : e = (k, a) := m.eq_of_mem_of_key_eq (List.mem_of_find?_eq_some hfind) h hk
      rw [he, Option.map_some]

theorem mem_values {m : SortedMap κ α} {a : α} : a ∈ m.values ↔ ∃ k, m.find? k = some a := by
  simp only [values, find?_eq_some_iff, List.mem_map]
  constructor
  · rintro ⟨⟨k, a⟩, h, rfl⟩
    exact ⟨k, h⟩
  · rintro ⟨k, h⟩
    exact ⟨(k, a), h, rfl⟩

theorem mem_keys {m : SortedMap κ α} {k : κ} : k ∈ m.keys ↔ ∃ a, m.find? k = some a := by
  simp only [keys, find?_eq_some_iff, List.mem_map]
  constructor
  · rintro ⟨⟨k, a⟩, h, rfl⟩
    exact ⟨a, h⟩
  · rintro ⟨a, h⟩
    exact ⟨(k, a), h, rfl⟩

omit [DecidableEq κ] in
theorem nodup_keys (m : SortedMap κ α) : m.keys.Nodup := by
  refine List.pairwise_map.2 (m.sorted.imp ?_)
  intro d e hlt heq
  exact KeyOrder.irrefl _ (heq ▸ hlt)

/-- Two maps with the same values are the same map. -/
theorem ext_find? {m m' : SortedMap κ α} (h : ∀ k, m.find? k = m'.find? k) : m = m' := by
  have hnodup : ∀ m : SortedMap κ α, m.entries.Nodup := by
    intro m
    refine m.sorted.imp ?_
    rintro d e hlt rfl
    exact KeyOrder.irrefl _ hlt
  have hmem : ∀ e, e ∈ m.entries ↔ e ∈ m'.entries := by
    rintro ⟨k, a⟩
    rw [← find?_eq_some_iff, h, find?_eq_some_iff]
  refine SortedMap.ext (List.Perm.eq_of_pairwise ?_ m.sorted m'.sorted
    ((List.perm_ext_iff_of_nodup (hnodup m) (hnodup m')).2 hmem))
  exact fun d e _ _ hlt hgt => absurd (KeyOrder.trans hlt hgt) (KeyOrder.irrefl _)

/-- A map that has no value under two keys has no value twice. -/
theorem nodup_values {m : SortedMap κ α}
    (h : ∀ k k' a, m.find? k = some a → m.find? k' = some a → k = k') : m.values.Nodup := by
  refine List.pairwise_map.2 (m.sorted.imp_of_mem ?_)
  intro d e hd he hlt heq
  have hkey : d.1 = e.1 := h d.1 e.1 d.2 (find?_eq_some_iff.2 hd) (find?_eq_some_iff.2 (heq ▸ he))
  exact KeyOrder.irrefl _ (hkey ▸ hlt)

end Entries

section Find

variable [DecidableEq κ]

@[simp] theorem find?_empty (k : κ) : (∅ : SortedMap κ α).find? k = none := rfl

@[simp] theorem contains_empty (k : κ) : (∅ : SortedMap κ α).contains k = false := rfl

theorem contains_eq_true_iff {m : SortedMap κ α} {k : κ} :
    m.contains k = true ↔ ∃ a, m.find? k = some a := Option.isSome_iff_exists

theorem find?_eq_none_iff {m : SortedMap κ α} {k : κ} :
    m.find? k = none ↔ m.contains k = false := by
  rw [contains, Option.isSome_eq_false_iff, Option.isNone_iff_eq_none]

@[simp] theorem find?_mapValues (f : κ → α → β) (m : SortedMap κ α) (k : κ) :
    (m.mapValues f).find? k = (m.find? k).map (f k) := by
  show ((m.entries.map fun e => (e.1, f e.1 e.2)).find? fun e => e.1 = k).map (·.2) = _
  unfold find?
  induction m.entries with
  | nil => rfl
  | cons e rest ih =>
    by_cases hk : e.1 = k
    · subst hk; simp
    · simpa [hk] using ih

theorem find?_modify (m : SortedMap κ α) (k k' : κ) (f : α → α) :
    (m.modify k f).find? k' = if k = k' then (m.find? k').map f else m.find? k' := by
  rw [modify, find?_mapValues]
  split
  · next h => subst h; simp
  · next h => simp [Ne.symm h]

variable [DecidableLT κ] [KeyOrder κ]

@[simp] theorem find?_insert (m : SortedMap κ α) (k k' : κ) (a : α) :
    (m.insert k a).find? k' = if k' = k then some a else m.find? k' := by
  show ((insertEntry k a m.entries).find? fun e => e.1 = k').map (·.2) = _
  unfold find?
  induction m.entries with
  | nil => by_cases h : k' = k <;> simp [insertEntry, h, eq_comm]
  | cons e rest ih =>
    rw [insertEntry]
    split
    · by_cases h : k' = k <;> simp [h, eq_comm]
    · split
      · next heq => by_cases h : k' = k <;> simp [h, ← heq, eq_comm]
      · next hne =>
        by_cases he : e.1 = k'
        · have : k' ≠ k := fun h => hne (h ▸ he.symm)
          simp [he, this]
        · simpa [he] using ih

@[simp] theorem contains_insert (m : SortedMap κ α) (k k' : κ) (a : α) :
    (m.insert k a).contains k' = (decide (k' = k) || m.contains k') := by
  unfold contains
  rw [find?_insert]
  by_cases h : k' = k <;> simp [h]

theorem size_insert (m : SortedMap κ α) (k : κ) (a : α) :
    (m.insert k a).size = if m.contains k then m.size else m.size + 1 := by
  have hsorted := m.sorted
  unfold contains find?
  show (insertEntry k a m.entries).length = if _ then m.entries.length else m.entries.length + 1
  generalize m.entries = entries at hsorted
  induction entries with
  | nil => rfl
  | cons e rest ih =>
    -- past the place of the key all keys are greater, so that it is found there or nowhere
    obtain ⟨hfirst, hrest⟩ := List.pairwise_cons.1 hsorted
    rw [insertEntry]
    split
    · next hlt =>
      have hne : ∀ d ∈ e :: rest, ¬d.1 = k := by
        rintro d hd rfl
        rcases List.mem_cons.1 hd with rfl | hd
        · exact KeyOrder.irrefl _ hlt
        · exact KeyOrder.irrefl _ (KeyOrder.trans hlt (hfirst d hd))
      have hnone : (e :: rest).find? (fun d => d.1 = k) = none := by
        simpa using hne
      rw [hnone]
      rfl
    · split
      · next heq => simp [heq]
      · next hne =>
        have hskip : (e :: rest).find? (fun d => d.1 = k) = rest.find? fun d => d.1 = k := by
          rw [List.find?_cons]
          simp [Ne.symm hne]
        rw [hskip, List.length_cons, ih hrest, List.length_cons]
        split <;> rfl

/-- A list without two entries of one key gives a map with these entries. -/
theorem find?_ofList {es : List (κ × α)} (hnodup : (es.map (·.1)).Nodup) {k : κ} {a : α} :
    (ofList es).find? k = some a ↔ (k, a) ∈ es := by
  -- entries come after those of a map that has no value under their keys
  suffices h : ∀ m : SortedMap κ α, (∀ e ∈ es, m.find? e.1 = none) →
      ((es.foldl (fun m e => m.insert e.1 e.2) m).find? k = some a ↔
        (k, a) ∈ es ∨ m.find? k = some a) by
    have hempty := h ∅ fun _ _ => rfl
    rwa [find?_empty, or_iff_left nofun] at hempty
  induction es with
  | nil => simp
  | cons e rest ih =>
    intro m hm
    obtain ⟨hnew, hrest⟩ := List.nodup_cons.1 hnodup
    have hfree : ∀ d ∈ rest, (m.insert e.1 e.2).find? d.1 = none := by
      intro d hd
      have hne : d.1 ≠ e.1 := fun heq => hnew (List.mem_map.2 ⟨d, hd, heq⟩)
      rw [find?_insert, if_neg hne]
      exact hm d (List.mem_cons_of_mem e hd)
    rw [List.foldl_cons, ih hrest _ hfree, find?_insert, List.mem_cons]
    by_cases hk : k = e.1
    · subst hk
      have hnone := hm e List.mem_cons_self
      simp [hnone, Prod.ext_iff, or_comm, eq_comm]
    · simp [hk, Prod.ext_iff]

/-- A map has the values of the list that it is made of. -/
theorem perm_values_ofList {es : List (κ × α)} (hnodup : (es.map (·.1)).Nodup) :
    (ofList es).values.Perm (es.map (·.2)) := by
  refine ((List.perm_ext_iff_of_nodup (.of_map _ (nodup_keys (ofList es)))
    (.of_map _ hnodup)).2 ?_).map _
  rintro ⟨k, a⟩
  rw [← find?_eq_some_iff, find?_ofList hnodup]

end Find

section Filter

variable [KeyOrder κ] [DecidableEq κ]

@[simp] theorem find?_filter (p : κ → α → Bool) (m : SortedMap κ α) (k : κ) :
    (m.filter p).find? k = (m.find? k).filter (p k) := by
  apply Option.ext
  intro a
  rw [find?_eq_some_iff, Option.filter_eq_some_iff, find?_eq_some_iff]
  exact List.mem_filter

theorem find?_erase (m : SortedMap κ α) (k k' : κ) :
    (m.erase k).find? k' = if k' = k then none else m.find? k' := by
  rw [erase, find?_filter]
  by_cases h : k' = k
  · simp [h]
  · cases m.find? k' <;> simp [h]

end Filter

end FixturePlan.SortedMap
