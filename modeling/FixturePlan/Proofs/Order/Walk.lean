import FixturePlan.Order.Component
import Mathlib.Data.Finset.Card
import Mathlib.Logic.Relation

/-!
# What a walk enters

A depth-first walk enters the nodes that can be reached from where it starts, and leaves each of them
once (`mem_entered_walk`, `mem_left_walk`, `nodup_left_walk`).

Two facts carry this. At any time, the walk has entered everything that edges lead to from the nodes it
has left (`Walk.Sound`). And when it comes back from some nodes, it has left all that it entered on the
way (`Walk.GoesOn`), so that at the end nothing is entered and not left. Nodes that are entered are never
entered again, hence the bound on the depth of the walk is never met.
-/

namespace FixturePlan.Order

variable {table : Array (List Nat)} {starts starts' : List Nat} {w w₁ w₂ : Walk} {node : Nat}

/-- A way along the successors in a table, of any length. -/
def Leads (table : Array (List Nat)) : Nat → Nat → Prop :=
  Relation.ReflTransGen fun a b => b ∈ table[a]?.getD []

namespace Walk

/-- What holds at any time: a node is left once, after it was entered, and the edges from it have been
followed. -/
structure Sound (table : Array (List Nat)) (w : Walk) : Prop where
  mem_entered : ∀ n ∈ w.left, n ∈ w.entered
  nodup_left : w.left.Nodup
  followed : ∀ n ∈ w.left, ∀ next ∈ table[n]?.getD [], next ∈ w.entered

/-- What a walk has become after going on from some nodes. -/
structure GoesOn (table : Array (List Nat)) (starts : List Nat) (w w' : Walk) : Prop where
  start : ∀ n ∈ starts, n ∈ w'.entered
  entered : ∀ n ∈ w.entered, n ∈ w'.entered
  left : ∀ n ∈ w.left, n ∈ w'.left
  /-- What was entered on the way has been left. -/
  left_of_entered : ∀ n ∈ w'.entered, n ∈ w.entered ∨ n ∈ w'.left
  /-- What was left on the way was entered on the way. -/
  new_of_left : ∀ n ∈ w'.left, n ∈ w.left ∨ n ∉ w.entered
  reached : ∀ n ∈ w'.entered, n ∈ w.entered ∨ ∃ a ∈ starts, Leads table a n

namespace GoesOn

theorem refl (w : Walk) : GoesOn table [] w w where
  start _ h := absurd h List.not_mem_nil
  entered _ := id
  left _ := id
  left_of_entered _ := Or.inl
  new_of_left _ := Or.inl
  reached _ := Or.inl

theorem trans (h : GoesOn table starts w w₁) (h' : GoesOn table starts' w₁ w₂) :
    GoesOn table (starts ++ starts') w w₂ where
  start n hn := by
    rcases List.mem_append.1 hn with hn | hn
    · exact h'.entered n (h.start n hn)
    · exact h'.start n hn
  entered n hn := h'.entered n (h.entered n hn)
  left n hn := h'.left n (h.left n hn)
  left_of_entered n hn := by
    rcases h'.left_of_entered n hn with hn | hn
    · exact (h.left_of_entered n hn).imp_right (h'.left n)
    · exact Or.inr hn
  new_of_left n hn := by
    rcases h'.new_of_left n hn with hn | hn
    · exact h.new_of_left n hn
    · exact Or.inr fun hmem => hn (h.entered n hmem)
  reached n hn := by
    rcases h'.reached n hn with hn | ⟨a, ha, hway⟩
    · exact (h.reached n hn).imp_right fun ⟨a, ha, hway⟩ => ⟨a, List.mem_append_left _ ha, hway⟩
    · exact Or.inr ⟨a, List.mem_append_right _ ha, hway⟩

/-- A node that was entered before is not gone on from. -/
theorem of_entered (h : node ∈ w.entered) : GoesOn table [node] w w where
  start _ hn := List.mem_singleton.1 hn ▸ h
  entered _ := id
  left _ := id
  left_of_entered _ := Or.inl
  new_of_left _ := Or.inl
  reached _ := Or.inl

end GoesOn

/-- A walk that has entered a node. -/
def enter (w : Walk) (node : Nat) : Walk := { w with entered := w.entered.insert node }

/-- A walk that has left a node. -/
def leave (w : Walk) (node : Nat) : Walk := { w with left := node :: w.left }

theorem mem_entered_enter {n : Nat} : n ∈ (w.enter node).entered ↔ n = node ∨ n ∈ w.entered := by
  rw [enter, Std.HashSet.mem_insert, beq_iff_eq, eq_comm]

theorem Sound.enter (h : Sound table w) : Sound table (w.enter node) where
  mem_entered n hn := mem_entered_enter.2 (Or.inr (h.mem_entered n hn))
  nodup_left := h.nodup_left
  followed n hn next hnext := mem_entered_enter.2 (Or.inr (h.followed n hn next hnext))

section Leave

variable (hnew : node ∉ w.entered) (hon : GoesOn table (table[node]?.getD []) (w.enter node) w₁)

include hnew hon

/-- Between entering and leaving a node, the walk goes on from its successors. -/
theorem Sound.leave (h : Sound table w) (h₁ : Sound table w₁) : Sound table (w₁.leave node) where
  mem_entered n hn := by
    rcases List.mem_cons.1 hn with rfl | hn
    · exact hon.entered n (mem_entered_enter.2 (Or.inl rfl))
    · exact h₁.mem_entered n hn
  nodup_left := by
    refine List.nodup_cons.2 ⟨fun hmem => ?_, h₁.nodup_left⟩
    rcases hon.new_of_left node hmem with hleft | hnot
    · exact hnew (h.mem_entered node hleft)
    · exact hnot (mem_entered_enter.2 (Or.inl rfl))
  followed n hn next hnext := by
    rcases List.mem_cons.1 hn with rfl | hn
    · exact hon.start next hnext
    · exact h₁.followed n hn next hnext

theorem GoesOn.leave : GoesOn table [node] w (w₁.leave node) where
  start n hn := hon.entered n (mem_entered_enter.2 (Or.inl (List.mem_singleton.1 hn)))
  entered n hn := hon.entered n (mem_entered_enter.2 (Or.inr hn))
  left n hn := List.mem_cons_of_mem _ (hon.left n hn)
  left_of_entered n hn := by
    rcases hon.left_of_entered n hn with hn | hn
    · rcases mem_entered_enter.1 hn with rfl | hn
      · exact Or.inr List.mem_cons_self
      · exact Or.inl hn
    · exact Or.inr (List.mem_cons_of_mem _ hn)
  new_of_left n hn := by
    rcases List.mem_cons.1 hn with rfl | hn
    · exact Or.inr hnew
    · exact (hon.new_of_left n hn).imp_right fun hnot hmem =>
        hnot (mem_entered_enter.2 (Or.inr hmem))
  reached n hn := by
    rcases hon.reached n hn with hn | ⟨a, ha, hway⟩
    · rcases mem_entered_enter.1 hn with rfl | hn
      · exact Or.inr ⟨n, List.mem_singleton_self n, .refl⟩
      · exact Or.inl hn
    · exact Or.inr ⟨node, List.mem_singleton_self node, hway.head ha⟩

end Leave

/-! ### The bound on the depth

A walk goes one level deeper only into a node that has not been entered, so that a depth of as many levels
as there are nodes is enough. -/

/-- The number of nodes of a table that have not been entered. -/
def pending (table : Array (List Nat)) (w : Walk) : Nat :=
  ((Finset.range table.size).filter (· ∉ w.entered)).card

theorem GoesOn.pending_le (h : GoesOn table starts w w₁) : w₁.pending table ≤ w.pending table := by
  refine Finset.card_le_card fun n hn => ?_
  obtain ⟨hlt, hnew⟩ := Finset.mem_filter.1 hn
  exact Finset.mem_filter.2 ⟨hlt, fun hmem => hnew (h.entered n hmem)⟩

theorem pending_enter_lt (hlt : node < table.size) (hnew : node ∉ w.entered) :
    (w.enter node).pending table < w.pending table := by
  refine Finset.card_lt_card ((Finset.ssubset_iff_of_subset fun n hn => ?_).2 ⟨node, ?_, ?_⟩)
  · obtain ⟨hlt, hn⟩ := Finset.mem_filter.1 hn
    exact Finset.mem_filter.2 ⟨hlt, fun hmem => hn (mem_entered_enter.2 (Or.inr hmem))⟩
  · exact Finset.mem_filter.2 ⟨Finset.mem_range.2 hlt, hnew⟩
  · exact fun hmem => (Finset.mem_filter.1 hmem).2 (mem_entered_enter.2 (Or.inl rfl))

/-- If a walk goes on from each single node, it goes on from several one after the other. -/
theorem goesOn_foldl {step : Walk → Nat → Walk} {bound : Nat}
    (hstep : ∀ w node, Sound table w → w.pending table < bound →
      Sound table (step w node) ∧ GoesOn table [node] w (step w node))
    (h : Sound table w) (hbound : w.pending table < bound) :
    Sound table (starts.foldl step w) ∧ GoesOn table starts w (starts.foldl step w) := by
  induction starts generalizing w with
  | nil => exact ⟨h, .refl w⟩
  | cons node rest ih =>
    obtain ⟨hsound, hon⟩ := hstep w node h hbound
    obtain ⟨hsounds, hons⟩ := ih hsound (Nat.lt_of_le_of_lt hon.pending_le hbound)
    exact ⟨hsounds, hon.trans hons⟩

end Walk

open Walk

theorem walkFrom_of_entered (fuel : Nat) (h : node ∈ w.entered) : walkFrom table fuel w node = w := by
  cases fuel with
  | zero => rfl
  | succ fuel => rw [walkFrom, if_pos (Std.HashSet.contains_iff_mem.2 h)]

theorem walkFrom_of_not_entered (fuel : Nat) (h : node ∉ w.entered) :
    walkFrom table (fuel + 1) w node =
      ((table[node]?.getD []).foldl (walkFrom table fuel) (w.enter node)).leave node := by
  rw [walkFrom, if_neg fun hmem => h (Std.HashSet.contains_iff_mem.1 hmem)]
  rfl

theorem goesOn_walkFrom (fuel : Nat) (w : Walk) (node : Nat) (h : Sound table w)
    (hfuel : w.pending table < fuel) :
    Sound table (walkFrom table fuel w node) ∧ GoesOn table [node] w (walkFrom table fuel w node) := by
  induction fuel generalizing w node with
  | zero => exact absurd hfuel (Nat.not_lt_zero _)
  | succ fuel ih =>
    by_cases hnew : node ∈ w.entered
    · rw [walkFrom_of_entered _ hnew]
      exact ⟨h, .of_entered hnew⟩
    · have hnext : Sound table ((table[node]?.getD []).foldl (walkFrom table fuel) (w.enter node)) ∧
          GoesOn table (table[node]?.getD []) (w.enter node)
            ((table[node]?.getD []).foldl (walkFrom table fuel) (w.enter node)) := by
        cases hnode : table[node]? with
        | none => exact ⟨h.enter, .refl _⟩
        | some next =>
          -- a node of the table that is entered for the first time uses up one step of the bound
          have hlt : node < table.size := (Array.getElem?_eq_some_iff.1 hnode).1
          exact goesOn_foldl ih h.enter
            (Nat.lt_of_lt_of_le (pending_enter_lt hlt hnew) (Nat.le_of_lt_succ hfuel))
      rw [walkFrom_of_not_entered fuel hnew]
      exact ⟨h.leave hnew hnext.2 hnext.1, hnext.2.leave hnew⟩

theorem goesOn_walk (table : Array (List Nat)) (starts : List Nat) :
    Sound table (walk table starts) ∧ GoesOn table starts ⟨∅, []⟩ (walk table starts) := by
  refine goesOn_foldl (goesOn_walkFrom (table.size + 1)) ?_ (Nat.lt_succ_of_le ?_)
  · exact ⟨fun _ => (absurd · List.not_mem_nil), .nil, fun _ => (absurd · List.not_mem_nil)⟩
  · exact (Finset.card_filter_le _ _).trans_eq (Finset.card_range _)

/-- A walk leaves what it enters. -/
theorem mem_left_walk_iff_entered {n : Nat} :
    n ∈ (walk table starts).left ↔ n ∈ (walk table starts).entered := by
  obtain ⟨hsound, hon⟩ := goesOn_walk table starts
  refine ⟨hsound.mem_entered n, fun hn => ?_⟩
  exact (hon.left_of_entered n hn).resolve_left Std.HashSet.not_mem_empty

/-- A walk enters the nodes that can be reached from where it starts. -/
theorem mem_entered_walk {n : Nat} :
    n ∈ (walk table starts).entered ↔ ∃ a ∈ starts, Leads table a n := by
  obtain ⟨hsound, hon⟩ := goesOn_walk table starts
  constructor
  · intro hn
    exact (hon.reached n hn).resolve_left Std.HashSet.not_mem_empty
  · rintro ⟨a, ha, hway⟩
    induction hway with
    | refl => exact hon.start a ha
    | tail _ hnext ih => exact hsound.followed _ (mem_left_walk_iff_entered.2 ih) _ hnext

theorem mem_left_walk {n : Nat} : n ∈ (walk table starts).left ↔ ∃ a ∈ starts, Leads table a n :=
  mem_left_walk_iff_entered.trans mem_entered_walk

theorem nodup_left_walk (table : Array (List Nat)) (starts : List Nat) :
    (walk table starts).left.Nodup :=
  (goesOn_walk table starts).1.nodup_left

end FixturePlan.Order
