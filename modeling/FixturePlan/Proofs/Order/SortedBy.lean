import Mathlib.Data.List.Perm.Basic

/-!
# Sorting by a number

Keys are reported piece by piece, each piece with its place, and put in order by it; pieces of one place
stay as they were reported. There is one list for which this is so (`SortedBy.eq`), and
`List.mergeSort` finds it (`sortedBy_mergeSort`).
-/

namespace FixturePlan

variable {α : Type} {f : α → Nat} {as bs cs : List α}

/-- The second list holds what the first one holds, by ascending numbers and otherwise in the same
order. -/
structure SortedBy (f : α → Nat) (as bs : List α) : Prop where
  ascending : bs.Pairwise fun a b => f a ≤ f b
  filter_eq : ∀ n, bs.filter (f · = n) = as.filter (f · = n)

theorem sortedBy_mergeSort (f : α → Nat) (as : List α) :
    SortedBy f as (as.mergeSort fun a b => f a ≤ f b) := by
  have htrans : ∀ a b c, decide (f a ≤ f b) = true → decide (f b ≤ f c) = true →
      decide (f a ≤ f c) = true := by
    intro a b c hab hbc
    rw [decide_eq_true_iff] at hab hbc ⊢
    exact Nat.le_trans hab hbc
  have htotal : ∀ a b, (decide (f a ≤ f b) || decide (f b ≤ f a)) = true := by
    intro a b
    rw [Bool.or_eq_true, decide_eq_true_iff, decide_eq_true_iff]
    exact Nat.le_total _ _
  constructor
  · refine (List.pairwise_mergeSort htrans htotal as).imp ?_
    intro a b hab
    exact decide_eq_true_iff.1 hab
  · -- what has one number is ascending, so that it stays as it was; and nothing is added
    intro n
    have hascending : (as.filter (f · = n)).Pairwise fun a b => decide (f a ≤ f b) = true := by
      refine List.pairwise_of_forall_mem_list ?_
      intro a ha b hb
      have han : f a = n := by simpa using (List.mem_filter.1 ha).2
      have hbn : f b = n := by simpa using (List.mem_filter.1 hb).2
      exact decide_eq_true (Nat.le_of_eq (han.trans hbn.symm))
    have hstays := (List.sublist_mergeSort htrans htotal hascending List.filter_sublist).filter
      (f · = n)
    rw [List.filter_filter] at hstays
    simp only [Bool.and_self] at hstays
    have hlength := ((List.mergeSort_perm as fun a b => f a ≤ f b).filter (f · = n)).length_eq
    exact (hstays.eq_of_length hlength.symm).symm

/-- Lists that agree on what has one number, whatever the number, have the same members. -/
theorem mem_iff_of_filter_eq (h : ∀ n, bs.filter (f · = n) = cs.filter (f · = n)) {a : α} :
    a ∈ bs ↔ a ∈ cs := by
  have hfilter : ∀ l : List α, a ∈ l ↔ a ∈ l.filter (f · = f a) := by
    intro l
    simp
  rw [hfilter bs, h, ← hfilter cs]

/-- Ascending lists that agree on what has one number are the same list. -/
theorem eq_of_ascending (hbs : bs.Pairwise fun a b => f a ≤ f b)
    (hcs : cs.Pairwise fun a b => f a ≤ f b)
    (hfilter : ∀ n, bs.filter (f · = n) = cs.filter (f · = n)) : bs = cs := by
  induction bs generalizing cs with
  | nil =>
    refine (List.eq_nil_iff_forall_not_mem.2 ?_).symm
    intro c hc
    exact List.not_mem_nil ((mem_iff_of_filter_eq hfilter).2 hc)
  | cons b bs ih =>
    cases cs with
    | nil => exact absurd ((mem_iff_of_filter_eq hfilter).1 List.mem_cons_self) List.not_mem_nil
    | cons c cs =>
      obtain ⟨hb, hbs'⟩ := List.pairwise_cons.1 hbs
      obtain ⟨hc, hcs'⟩ := List.pairwise_cons.1 hcs
      -- both lists begin with their least number
      have hle : ∀ {d ds a}, (∀ e ∈ ds, f d ≤ f e) → a ∈ d :: ds → f d ≤ f a := by
        intro d ds a hd ha
        rcases List.mem_cons.1 ha with rfl | ha
        · exact Nat.le_refl _
        · exact hd a ha
      have heq : f c = f b := Nat.le_antisymm
        (hle hc ((mem_iff_of_filter_eq hfilter).1 List.mem_cons_self))
        (hle hb ((mem_iff_of_filter_eq hfilter).2 List.mem_cons_self))
      have hhead := hfilter (f b)
      rw [List.filter_cons_of_pos (by simp), List.filter_cons_of_pos (by simpa using heq)] at hhead
      obtain ⟨rfl, htail⟩ := List.cons.inj hhead
      refine congrArg (b :: ·) (ih hbs' hcs' ?_)
      intro n
      by_cases hn : f b = n
      · subst hn
        exact htail
      · have hrest := hfilter n
        rwa [List.filter_cons_of_neg (by simpa using hn),
          List.filter_cons_of_neg (by simpa using hn)] at hrest

namespace SortedBy

theorem mem_iff (h : SortedBy f as bs) {a : α} : a ∈ bs ↔ a ∈ as :=
  mem_iff_of_filter_eq h.filter_eq

/-- A list can be sorted in one way only. -/
theorem eq (h : SortedBy f as bs) (h' : SortedBy f as cs) : bs = cs := by
  apply eq_of_ascending h.ascending h'.ascending
  intro n
  rw [h.filter_eq, h'.filter_eq]

/-- Where no two numbers are equal, it does not matter in which order the list was before. -/
theorem of_perm (h : SortedBy f as bs) (hperm : cs.Perm as) (hdistinct : (as.map f).Nodup) :
    SortedBy f cs bs where
  ascending := h.ascending
  filter_eq n := by
    -- no two of a list have the number
    have hnone : ∀ l : List α, (l.map f).Nodup → (l.filter (f · = n)).Pairwise fun _ _ => False := by
      intro l hl
      refine (List.pairwise_map.1 (hl.sublist (List.filter_sublist.map f))).imp_of_mem ?_
      intro a b ha hb hne
      have han : f a = n := by simpa using (List.mem_filter.1 ha).2
      have hbn : f b = n := by simpa using (List.mem_filter.1 hb).2
      exact hne (han.trans hbn.symm)
    rw [h.filter_eq]
    refine (hperm.symm.filter _).eq_of_pairwise (fun _ _ _ _ hab _ => hab.elim) (hnone as hdistinct) ?_
    exact hnone cs ((hperm.map f).nodup_iff.2 hdistinct)

/-- What has one number keeps the order that the list had. -/
theorem pairwise_ties {r : α → α → Prop} (h : SortedBy f as bs) (has : as.Pairwise r) :
    bs.Pairwise fun a b => f a < f b ∨ f a = f b ∧ r a b := by
  refine List.pairwise_iff_forall_sublist.2 fun {a b} hab => ?_
  rcases Nat.lt_or_eq_of_le (List.pairwise_iff_forall_sublist.1 h.ascending hab) with hlt | heq
  · exact .inl hlt
  · refine .inr ⟨heq, ?_⟩
    have htied : [a, b].Sublist (bs.filter (f · = f b)) := by
      simpa [heq] using hab.filter (f · = f b)
    rw [h.filter_eq] at htied
    exact List.pairwise_iff_forall_sublist.1 (has.filter _) htied

/-- What is sorted stays so when some of it is left out. -/
theorem filter (h : SortedBy f as bs) (p : α → Bool) : SortedBy f (as.filter p) (bs.filter p) where
  ascending := h.ascending.filter p
  filter_eq n := by
    rw [List.filter_comm, h.filter_eq, List.filter_comm]

end SortedBy

end FixturePlan
