import Mathlib.Order.Basic
import Mathlib.Data.List.Basic
import Mathlib.Tactic.ByContra

/-!
# Pages of a sorted list

A sorted list is cut to pages of a size. Elements that compare as equal stand side by side, and are on one
page unless a border falls between them (`ShareAPage`). This is said without the sorted list, by counting
what comes before an element, so that it does not depend on the order of equal elements. A full page can be
taken off if nothing behind it compares as equal to something on it (`shareAPage_append_iff`).
-/

namespace FixturePlan

variable {α : Type} {cmp : α → α → Ordering} {size : Nat} {as bs page rest : List α} {a b : α}

/-- The number of elements of a list that come before an element. -/
def countBelow (cmp : α → α → Ordering) (as : List α) (a : α) : Nat := as.countP fun b => (cmp b a).isLT

/-- The number of elements of a list that come before an element or with it. -/
def countUpTo (cmp : α → α → Ordering) (as : List α) (a : α) : Nat := as.countP fun b => (cmp b a).isLE

/-- Elements that compare as equal are on one page when pages of a size are filled in order: as many pages
are full before the first of them as before the last. -/
def ShareAPage (cmp : α → α → Ordering) (size : Nat) (as : List α) : Prop :=
  ∀ a ∈ as, countBelow cmp as a / size = (countUpTo cmp as a - 1) / size

instance (cmp : α → α → Ordering) (size : Nat) (as : List α) : Decidable (ShareAPage cmp size as) :=
  inferInstanceAs (Decidable (∀ a ∈ as, _))

theorem ShareAPage.of_perm (h : ShareAPage cmp size as) (hperm : as.Perm bs) :
    ShareAPage cmp size bs := by
  intro b hb
  have hb' := h b (hperm.mem_iff.2 hb)
  rwa [countBelow, countUpTo, hperm.countP_eq, hperm.countP_eq] at hb'

theorem countBelow_append (page rest : List α) (a : α) :
    countBelow cmp (page ++ rest) a = countBelow cmp page a + countBelow cmp rest a :=
  List.countP_append

theorem countUpTo_append (page rest : List α) (a : α) :
    countUpTo cmp (page ++ rest) a = countUpTo cmp page a + countUpTo cmp rest a :=
  List.countP_append

theorem countUpTo_eq (cmp : α → α → Ordering) (as : List α) (a : α) :
    countUpTo cmp as a = countBelow cmp as a + as.countP fun b => (cmp b a).isEq := by
  induction as with
  | nil => rfl
  | cons b rest ih =>
    simp only [countBelow, countUpTo, List.countP_cons] at ih ⊢
    rw [ih]
    cases cmp b a <;> simp <;> omega

section Refl

variable [Std.ReflCmp cmp]

theorem countBelow_lt_countUpTo (cmp : α → α → Ordering) [Std.ReflCmp cmp] (ha : a ∈ as) :
    countBelow cmp as a < countUpTo cmp as a := by
  have hself : (cmp a a).isEq = true := Ordering.isEq_iff_eq_eq.2 Std.ReflCmp.compare_self
  have hpos : 0 < as.countP fun b => (cmp b a).isEq :=
    List.countP_pos_iff.2 ⟨a, ha, hself⟩
  rw [countUpTo_eq]
  omega

/-- A list that fits on a page. -/
theorem shareAPage_of_length_le (h : as.length ≤ size) : ShareAPage cmp size as := by
  intro a ha
  have hlt := countBelow_lt_countUpTo cmp ha
  have hle : countUpTo cmp as a ≤ as.length := List.countP_le_length
  rw [Nat.div_eq_of_lt (by omega), Nat.div_eq_of_lt (by omega)]

/-- Elements share pages of one exactly if no two of them compare as equal. -/
theorem shareAPage_one_iff :
    ShareAPage cmp 1 as ↔ ∀ a ∈ as, (as.countP fun b => (cmp b a).isEq) = 1 := by
  refine forall₂_congr fun a ha => ?_
  have hlt := countBelow_lt_countUpTo cmp ha
  rw [Nat.div_one, Nat.div_one]
  rw [countUpTo_eq] at hlt ⊢
  omega

/-- And then they share pages of every size. -/
theorem ShareAPage.of_one (h : ShareAPage cmp 1 as) (size : Nat) : ShareAPage cmp size as := by
  intro a ha
  rw [countUpTo_eq, shareAPage_one_iff.1 h a ha, Nat.add_sub_cancel]

end Refl

/-! ### Taking off a full page -/

theorem countUpTo_append_of_isLE (hlength : page.length = size)
    (hle : ∀ a ∈ page, ∀ b ∈ rest, (cmp a b).isLE = true) (hb : b ∈ rest) :
    countUpTo cmp (page ++ rest) b = size + countUpTo cmp rest b := by
  rw [countUpTo_append, ← hlength]
  congr 1
  exact List.countP_eq_length.2 fun a ha => hle a ha b hb

theorem countBelow_append_of_lt (hlength : page.length = size)
    (hlt : ∀ a ∈ page, ∀ b ∈ rest, cmp a b = .lt) (hb : b ∈ rest) :
    countBelow cmp (page ++ rest) b = size + countBelow cmp rest b := by
  rw [countBelow_append, ← hlength]
  congr 1
  exact List.countP_eq_length.2 fun a ha => by rw [hlt a ha b hb]; rfl

section Page

variable [Std.TransCmp cmp]

variable (hsize : 0 < size) (hlength : page.length = size)
include hsize hlength

/-- Everything that comes after all of a full page is one page further than without it. -/
theorem sharesPage_append_iff (hlt : ∀ a ∈ page, ∀ b ∈ rest, cmp a b = .lt) (hb : b ∈ rest) :
    countBelow cmp (page ++ rest) b / size = (countUpTo cmp (page ++ rest) b - 1) / size ↔
      countBelow cmp rest b / size = (countUpTo cmp rest b - 1) / size := by
  have hle : ∀ a ∈ page, ∀ b ∈ rest, (cmp a b).isLE = true := fun a ha b hb => by
    rw [hlt a ha b hb]
    rfl
  have hpos := countBelow_lt_countUpTo cmp hb
  rw [countUpTo_append_of_isLE hlength hle hb, countBelow_append_of_lt hlength hlt hb,
    Nat.add_sub_assoc (by omega), Nat.add_div_left _ hsize, Nat.add_div_left _ hsize, Nat.succ_inj]

/-- Where elements that compare as equal share pages, what is behind a full page comes after all of it. -/
theorem lt_of_shareAPage_append (hle : ∀ a ∈ page, ∀ b ∈ rest, (cmp a b).isLE = true)
    (h : ShareAPage cmp size (page ++ rest)) (ha : a ∈ page) (hb : b ∈ rest) : cmp a b = .lt := by
  by_contra hne
  -- the first of the elements that compare as equal to both is on this page, the last is not
  have hequal : cmp a b = .eq := by
    have hab := hle a ha b hb
    cases hcmp : cmp a b <;> simp_all
  have hnone : countBelow cmp rest b = 0 := by
    rw [countBelow, List.countP_eq_zero]
    intro c hc hcb
    have hac := hle a ha c hc
    have hlt : cmp a b = .lt := Std.TransCmp.lt_of_isLE_of_lt hac (by simpa using hcb)
    exact hne hlt
  have hfew : countBelow cmp page b < page.length := by
    rw [countBelow, ← Nat.not_le]
    intro hge
    have hall := List.countP_eq_length.1 (Nat.le_antisymm List.countP_le_length hge) a ha
    rw [hequal] at hall
    cases hall
  have hpos := countBelow_lt_countUpTo cmp hb
  have hpage := h b (List.mem_append_right _ hb)
  rw [countBelow_append, hnone, countUpTo_append_of_isLE hlength hle hb,
    Nat.add_sub_assoc (by omega), Nat.add_div_left _ hsize, Nat.div_eq_of_lt (by omega)] at hpage
  exact absurd hpage (Nat.succ_ne_zero _).symm

/-- Where the first page of a sorted list is full, what is behind it has to come after all of it. -/
theorem shareAPage_append_iff
    (hsorted : (page ++ rest).Pairwise fun a b => (cmp a b).isLE = true) :
    ShareAPage cmp size (page ++ rest) ↔
      (∀ a ∈ page, ∀ b ∈ rest, cmp a b = .lt) ∧ ShareAPage cmp size rest := by
  obtain ⟨-, -, hle⟩ := List.pairwise_append.1 hsorted
  constructor
  · intro h
    have hlt : ∀ a ∈ page, ∀ b ∈ rest, cmp a b = .lt := fun a ha b hb =>
      lt_of_shareAPage_append hsize hlength hle h ha hb
    refine ⟨hlt, fun b hb => ?_⟩
    exact (sharesPage_append_iff hsize hlength hlt hb).1 (h b (List.mem_append_right _ hb))
  · rintro ⟨hlt, h⟩ a ha
    rcases List.mem_append.1 ha with ha | ha
    · -- on the page itself nothing behind it counts
      have hnone : countUpTo cmp rest a = 0 := by
        rw [countUpTo, List.countP_eq_zero]
        intro b hb
        exact Std.OrientedCmp.not_isLE_of_lt (hlt a ha b hb)
      have hnone' : countBelow cmp rest a = 0 := by
        rw [countUpTo_eq] at hnone
        omega
      rw [countBelow_append, countUpTo_append, hnone, hnone', Nat.add_zero, Nat.add_zero]
      exact shareAPage_of_length_le (Nat.le_of_eq hlength) a ha
    · exact (sharesPage_append_iff hsize hlength hlt ha).2 (h a ha)

end Page

end FixturePlan
