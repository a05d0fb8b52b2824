import FixturePlan.Plan.Basic
import Mathlib.Data.List.Basic
import FixturePlan.Proofs.Plan.Inclusion
import FixturePlan.Proofs.Plan.Order
import FixturePlan.Proofs.Report

/-!
# What becomes of every entity

No entity is lost or planned twice. The decided entities of a pass are those that were placed, those
that were dropped and those that were replaced (`Accounted`); the order lists, for each decided entity
in turn, what stands in its place (`standing?`).
-/

namespace FixturePlan

namespace Included

/-- What stands in the order for a decided entity: nothing if it was dropped, its stand-in if it has
one, else itself. -/
def standing? (st : Included) (id : EntityId) : Option EntityId :=
  if st.isDropped id then none else some ((st.replaced.find? id).getD id)

theorem standing?_eq_some_iff {st : Included} {id x : EntityId} :
    st.standing? id = some x ↔
      st.isDropped id = false ∧
        (st.replaced.find? id = some x ∨ st.replaced.find? id = none ∧ x = id) := by
  unfold standing?
  cases st.isDropped id with
  | true => simp
  | false => cases st.replaced.find? id <;> simp [eq_comm]

/-- The books of a pass over a set of `count` entities: `decided` are the entities decided so far. -/
structure Accounted (count : Nat) (decided : List EntityId) (st : Included) : Prop where
  size_eq : st.entities.size = count + st.replaced.size
  order_eq : st.order = decided.filterMap st.standing?
  of_dropped : ∀ id, st.isDropped id = true → id ∈ decided
  of_replaced : ∀ id t, st.replaced.find? id = some t →
    id ∈ decided ∧ st.isDropped id = false ∧ count ≤ t ∧ t < st.entities.size
  replaced_inj : ∀ a b t, st.replaced.find? a = some t → st.replaced.find? b = some t → a = b

namespace Accounted

variable {count : Nat} {decided rest : List EntityId} {st : Included} {id : EntityId}

theorem start (s : EntitySet) : Accounted s.size [] (.start s) where
  size_eq := rfl
  order_eq := rfl
  of_dropped id h := by
    rw [Included.start, isDropped, SortedMap.contains_empty] at h
    cases h
  of_replaced id t h := by simp [Included.start] at h
  replaced_inj a b t h := by simp [Included.start] at h

/-- An undecided entity is in none of the books. -/
theorem of_not_mem (h : Accounted count decided st) (hid : id ∉ decided) :
    st.isDropped id = false ∧ st.replaced.find? id = none := by
  constructor
  · exact Bool.eq_false_iff.2 fun hd => hid (h.of_dropped id hd)
  · cases hr : st.replaced.find? id with
    | none => rfl
    | some t => exact absurd (h.of_replaced id t hr).1 hid

/-- What stands for other entities stays if a step changes the books at one entity only. -/
theorem filterMap_standing?_congr {st' : Included} (hid : id ∉ decided)
    (hsame : ∀ x, x ≠ id → st'.standing? x = st.standing? x) :
    decided.filterMap st'.standing? = decided.filterMap st.standing? := by
  refine List.filterMap_congr ?_
  intro x hx
  exact hsame x fun heq => hid (heq ▸ hx)

theorem place (h : Accounted count decided st) (hid : id ∉ decided) :
    Accounted count (decided ++ [id]) (st.place id) where
  size_eq := (size_place st id).trans h.size_eq
  order_eq := by
    obtain ⟨hd, hr⟩ := h.of_not_mem hid
    have hstanding : (st.place id).standing? id = some id :=
      standing?_eq_some_iff.2 ⟨hd, Or.inr ⟨hr, rfl⟩⟩
    have hrest : decided.filterMap (st.place id).standing? = decided.filterMap st.standing? :=
      filterMap_standing?_congr hid fun _ _ => rfl
    rw [List.filterMap_append, hrest, ← h.order_eq, List.filterMap_cons_some hstanding]
    rfl
  of_dropped x hx := List.mem_append_left _ (h.of_dropped x hx)
  of_replaced x t hx := by
    obtain ⟨hmem, hd, hle, hlt⟩ := h.of_replaced x t hx
    exact ⟨List.mem_append_left _ hmem, hd, hle, (size_place st id).symm ▸ hlt⟩
  replaced_inj := h.replaced_inj

theorem isDropped_drop (st : Included) (id x : EntityId) :
    (st.drop id).isDropped x = (decide (x = id) || st.isDropped x) :=
  SortedMap.contains_insert st.dropped id x ()

theorem drop (h : Accounted count decided st) (hid : id ∉ decided) :
    Accounted count (decided ++ [id]) (st.drop id) where
  size_eq := h.size_eq
  order_eq := by
    have hreplaced : (st.drop id).replaced = st.replaced := rfl
    have hstanding : (st.drop id).standing? id = none := by simp [standing?, isDropped_drop]
    -- what is dropped now had not been decided, so that the earlier ones stand as they did
    have hrest : decided.filterMap (st.drop id).standing? = decided.filterMap st.standing? :=
      filterMap_standing?_congr hid fun x hx => by
        simp [standing?, isDropped_drop, hreplaced, hx]
    rw [List.filterMap_append, hrest, ← h.order_eq, List.filterMap_cons_none hstanding,
      List.filterMap_nil, List.append_nil]
    rfl
  of_dropped x hx := by
    rw [isDropped_drop, Bool.or_eq_true, decide_eq_true_iff] at hx
    rcases hx with rfl | hx
    · simp
    · exact List.mem_append_left _ (h.of_dropped x hx)
  of_replaced x t hx := by
    obtain ⟨hmem, hd, hle, hlt⟩ := h.of_replaced x t hx
    have hne : x ≠ id := fun heq => hid (heq ▸ hmem)
    exact ⟨List.mem_append_left _ hmem, by simp [isDropped_drop, hne, hd], hle, hlt⟩
  replaced_inj := h.replaced_inj

theorem replace (h : Accounted count decided st) (hid : id ∉ decided) (e : Entity)
    (rest : List EntityId) :
    Accounted count (decided ++ [id]) (st.replace id e rest) := by
  obtain ⟨hd, hr⟩ := h.of_not_mem hid
  have hfind : ∀ x, (st.replace id e rest).replaced.find? x =
      if x = id then some st.entities.size else st.replaced.find? x :=
    fun x => SortedMap.find?_insert st.replaced id x st.entities.size
  have hdropped : ∀ x, (st.replace id e rest).isDropped x = st.isDropped x := fun _ => rfl
  -- the stand-in takes a number that no earlier one has
  have hold : ∀ x t, st.replaced.find? x = some t → t ≠ st.entities.size :=
    fun x t hx => Nat.ne_of_lt (h.of_replaced x t hx).2.2.2
  refine ⟨?_, ?_, ?_, ?_, ?_⟩
  · have hnew : st.replaced.contains id = false := SortedMap.find?_eq_none_iff.1 hr
    show (st.replace id e rest).entities.size = count + (st.replaced.insert id _).size
    rw [size_replace, SortedMap.size_insert, hnew, h.size_eq]
    rfl
  · have hstanding : (st.replace id e rest).standing? id = some st.entities.size :=
      standing?_eq_some_iff.2 ⟨hd, Or.inl (by simp [hfind])⟩
    have hrest : decided.filterMap (st.replace id e rest).standing? =
        decided.filterMap st.standing? :=
      filterMap_standing?_congr hid fun x hx => by simp [standing?, hdropped, hfind, hx]
    rw [List.filterMap_append, hrest, ← h.order_eq, List.filterMap_cons_some hstanding]
    rfl
  · exact fun x hx => List.mem_append_left _ (h.of_dropped x hx)
  · intro x t hx
    rw [hfind] at hx
    rw [size_replace, hdropped]
    split at hx
    · next heq =>
      obtain rfl := Option.some.inj hx
      have hle : count ≤ st.entities.size := h.size_eq ▸ Nat.le_add_right count _
      exact ⟨by simp [heq], heq ▸ hd, hle, Nat.lt_succ_self _⟩
    · obtain ⟨hmem, hd', hle, hlt⟩ := h.of_replaced x t hx
      exact ⟨List.mem_append_left _ hmem, hd', hle, Nat.lt_succ_of_lt hlt⟩
  · intro a b t ha hb
    rw [hfind] at ha hb
    split at ha
    · next hae =>
      split at hb
      · next hbe => exact hae.trans hbe.symm
      · exact absurd (Option.some.inj ha).symm (hold b t hb)
    · split at hb
      · exact absurd (Option.some.inj hb).symm (hold a t ha)
      · exact h.replaced_inj a b t ha hb

theorem decideOne {decide : Decider} (h : Accounted count decided st) (hid : id ∉ decided)
    (hlt : id < count) (hok : (decideOne decide st id rest).failure = none) :
    Accounted count (decided ++ [id]) (Included.decideOne decide st id rest).state := by
  have hsize : id < st.entities.size := by
    rw [h.size_eq]
    exact Nat.lt_add_right _ hlt
  obtain ⟨e, he⟩ := EntitySet.exists_get?_of_lt hsize
  rcases decideOne_cases he hok with ⟨-, -, hst⟩ | ⟨-, hst⟩ | ⟨-, hst⟩
  · exact hst ▸ h.place hid
  · exact hst ▸ h.drop hid
  · exact hst ▸ h.replace hid e rest

theorem clearAll (h : Accounted count decided st) (ids : List EntityId) :
    Accounted count decided (st.clearAll ids).state := by
  obtain ⟨-, horder, hdropped, hreplaced, hsize⟩ := clearAll_eq st ids
  have hd : (st.clearAll ids).state.isDropped = st.isDropped := by
    funext x
    rw [isDropped, hdropped, isDropped]
  have hstanding : (st.clearAll ids).state.standing? = st.standing? := by
    funext x
    rw [standing?, standing?, hd, hreplaced]
  refine ⟨?_, ?_, ?_, ?_, ?_⟩
  · rw [hsize, hreplaced]; exact h.size_eq
  · rw [horder, hstanding]; exact h.order_eq
  · rw [hd]; exact h.of_dropped
  · rw [hreplaced, hd, hsize]; exact h.of_replaced
  · rw [hreplaced]; exact h.replaced_inj

/-! ### Reading the books

Each decided entity is in one of the books, and the order lists what stands for the decided entities one
by one. -/

theorem mem_order_iff (h : Accounted count decided st) {x : EntityId} :
    x ∈ st.order ↔ ∃ id ∈ decided, st.standing? id = some x := by
  rw [h.order_eq, List.mem_filterMap]

theorem mem_order_of_replaced (h : Accounted count decided st) {t : EntityId}
    (ht : st.replaced.find? id = some t) : t ∈ st.order := by
  obtain ⟨hmem, hd, -, -⟩ := h.of_replaced id t ht
  exact h.mem_order_iff.2 ⟨id, hmem, standing?_eq_some_iff.2 ⟨hd, Or.inl ht⟩⟩

/-- What stands in the order is either a stand-in or an entity decided to be kept. -/
theorem of_mem_order (h : Accounted count decided st) {x : EntityId} (hx : x ∈ st.order) :
    (∃ id, st.replaced.find? id = some x) ∨
      x ∈ decided ∧ st.isDropped x = false ∧ st.replaced.find? x = none := by
  obtain ⟨id, hid, hstanding⟩ := h.mem_order_iff.1 hx
  obtain ⟨hd, hr | ⟨hr, rfl⟩⟩ := standing?_eq_some_iff.1 hstanding
  · exact Or.inl ⟨id, hr⟩
  · exact Or.inr ⟨hid, hd, hr⟩

theorem not_mem_order (h : Accounted count decided st) (hid : id ∉ decided) (hidlt : id < count) :
    id ∉ st.order := by
  intro hmem
  rcases h.of_mem_order hmem with ⟨a, hr⟩ | ⟨hd, -, -⟩
  · exact Nat.not_lt_of_le (h.of_replaced a id hr).2.2.1 hidlt
  · exact hid hd

variable (hlt : ∀ x ∈ decided, x < count)
include hlt

theorem lt_size_of_mem_order (h : Accounted count decided st) {x : EntityId} (hx : x ∈ st.order) :
    x < st.entities.size := by
  rcases h.of_mem_order hx with ⟨id, hr⟩ | ⟨hmem, -, -⟩
  · exact (h.of_replaced id x hr).2.2.2
  · rw [h.size_eq]
    exact Nat.lt_add_right _ (hlt x hmem)

/-- The order has neither dropped nor replaced entities. -/
theorem live_of_mem_order (h : Accounted count decided st) {x : EntityId} (hx : x ∈ st.order) :
    st.isDropped x = false ∧ st.replaced.find? x = none := by
  rcases h.of_mem_order hx with ⟨id, hr⟩ | ⟨-, hd, hr⟩
  · -- a stand-in has a number beyond those of the decided entities
    have hge : count ≤ x := (h.of_replaced id x hr).2.2.1
    exact h.of_not_mem fun hmem => Nat.not_lt_of_le hge (hlt x hmem)
  · exact ⟨hd, hr⟩

/-- Each decided entity is in exactly one of the books. -/
theorem partition (h : Accounted count decided st) (hid : id ∈ decided) :
    (id ∈ st.order ∧ st.isDropped id = false ∧ st.replaced.contains id = false) ∨
      (id ∉ st.order ∧ st.isDropped id = true ∧ st.replaced.contains id = false) ∨
      (id ∉ st.order ∧ st.isDropped id = false ∧ st.replaced.contains id = true) := by
  -- an id with a stand-in was not dropped, so that the cases exclude each other
  cases hr : st.replaced.find? id with
  | some t =>
    have hcontains := SortedMap.contains_eq_true_iff.2 ⟨t, hr⟩
    refine Or.inr (Or.inr ⟨?_, (h.of_replaced id t hr).2.1, hcontains⟩)
    intro hmem
    rw [(h.live_of_mem_order hlt hmem).2] at hr
    cases hr
  | none =>
    have hcontains := SortedMap.find?_eq_none_iff.1 hr
    cases hd : st.isDropped id with
    | true =>
      refine Or.inr (Or.inl ⟨?_, rfl, hcontains⟩)
      intro hmem
      rw [(h.live_of_mem_order hlt hmem).1] at hd
      cases hd
    | false =>
      have hstanding : st.standing? id = some id :=
        standing?_eq_some_iff.2 ⟨hd, Or.inr ⟨hr, rfl⟩⟩
      exact Or.inl ⟨h.mem_order_iff.2 ⟨id, hid, hstanding⟩, rfl, hcontains⟩

theorem nodup_order (h : Accounted count decided st) (hdecided : decided.Nodup) :
    st.order.Nodup := by
  rw [h.order_eq]
  refine List.pairwise_filterMap.2 (hdecided.imp_of_mem ?_)
  rintro a b ha hb hne x hx y hy rfl
  obtain ⟨-, hra | ⟨hra, hxa⟩⟩ := standing?_eq_some_iff.1 hx <;>
    obtain ⟨-, hrb | ⟨hrb, hxb⟩⟩ := standing?_eq_some_iff.1 hy
  · exact hne (h.replaced_inj a b x hra hrb)
  · exact Nat.not_lt_of_le (h.of_replaced a x hra).2.2.1 (hxb ▸ hlt b hb)
  · exact Nat.not_lt_of_le (h.of_replaced b x hrb).2.2.1 (hxa ▸ hlt a ha)
  · exact hne (hxa.symm.trans hxb)

end Accounted

section Pass

variable {decide : Decider} {s : EntitySet} {order : List EntityId}

/-- What every successful decision keeps while the books are right, a successful pass along a whole
order keeps; and the books are right at the end. -/
theorem accounted_of_step {P : List EntityId → Included → Prop} (hnodup : order.Nodup)
    (hlt : ∀ x ∈ order, x < s.size)
    (hstep : ∀ decided id rest st, order = decided ++ id :: rest → id ∉ decided →
      Accounted s.size decided st → P (id :: rest) st →
      (decideOne decide st id rest).failure = none → P rest (decideOne decide st id rest).state)
    (hstart : P order (.start s)) (hok : (decideAll decide (.start s) order).failure = none) :
    P [] (decideAll decide (.start s) order).state ∧
      Accounted s.size order (decideAll decide (.start s) order).state := by
  -- the decided entities are what is missing from the order in front of `rest`
  have hrun := decideAll_of_step
    (P := fun rest st => P rest st ∧
      ∃ decided, order = decided ++ rest ∧ Accounted s.size decided st)
    (fun id rest st ⟨hP, decided, horder, h⟩ hone => by
      have hid : id ∉ decided := fun hmem =>
        List.disjoint_of_nodup_append (horder ▸ hnodup) hmem List.mem_cons_self
      have hidlt : id < s.size := hlt id (by simp [horder])
      exact ⟨hstep decided id rest st horder hid h hP hone, decided ++ [id], by simp [horder],
        h.decideOne hid hidlt hone⟩)
    ⟨hstart, [], rfl, .start s⟩ hok
  obtain ⟨hP, decided, horder, h⟩ := hrun
  rw [List.append_nil] at horder
  exact ⟨hP, horder ▸ h⟩

/-- The books after a whole successful pass. -/
theorem accounted_outcome (horder : s.topologicalOrder = .ok order)
    (hok : (decideAll decide (.start s) order).failure = none) :
    Accounted s.size order (outcome decide s order) := by
  have hlt : ∀ x ∈ order, x < s.size := fun x => (EntitySet.mem_topologicalOrder_iff horder).1
  obtain ⟨-, h⟩ := accounted_of_step (P := fun _ _ => True)
    (EntitySet.nodup_of_topologicalOrder horder) hlt (fun _ _ _ _ _ _ _ _ _ => trivial) trivial hok
  exact h.clearAll _

end Pass

end Included

namespace Plan

/-- What it means that a plan accounts for every entity of the set it was made from. -/
structure AccountsFor (plan : Plan) (entities : EntitySet) : Prop where
  /-- Each entity is in the order, or it was dropped, or it was replaced, and only one of these. -/
  partition : ∀ id < entities.size,
    (id ∈ plan.order ∧ plan.dropped.contains id = false ∧ plan.replaced.contains id = false) ∨
      (id ∉ plan.order ∧ plan.dropped.contains id = true ∧ plan.replaced.contains id = false) ∨
      (id ∉ plan.order ∧ plan.dropped.contains id = false ∧ plan.replaced.contains id = true)
  /-- Nothing else was dropped or replaced. -/
  inside : ∀ id, plan.dropped.contains id = true ∨ plan.replaced.contains id = true →
    id < entities.size
  standIns_distinct : plan.replaced.values.Nodup
  standIns_new : ∀ t ∈ plan.replaced.values, entities.size ≤ t ∧ t ∈ plan.order
  size_eq : plan.entities.size = entities.size + plan.replaced.size
  numbered : ∀ id e, plan.entities.get? id = some e → e.id = id
  order_nodup : plan.order.Nodup
  /-- The order is the topological one without the dropped entities, and with the stand-ins in the
  places of the replaced ones. -/
  order_eq : ∃ sorted, entities.topologicalOrder = .ok sorted ∧
    plan.order = sorted.filterMap fun id =>
      if plan.dropped.contains id then none else some ((plan.replaced.find? id).getD id)

section Build

variable {schema : Schema} {joins : JoinShapes} {entities : EntitySet} {decide : Decider}
  {plan : Plan}

/-- What is planned is neither dropped nor replaced. -/
theorem live_of_mem_order (h : (build schema joins entities decide).result = .ok plan)
    {id : EntityId} (hid : id ∈ plan.order) :
    plan.dropped.contains id = false ∧ plan.replaced.contains id = false := by
  obtain ⟨sorted, hsorted, hok, rfl⟩ := exists_order_of_build h
  have hlt : ∀ x ∈ sorted, x < entities.size :=
    fun x => (EntitySet.mem_topologicalOrder_iff hsorted).1
  obtain ⟨hd, hr⟩ := (Included.accounted_outcome hsorted hok).live_of_mem_order hlt hid
  exact ⟨hd, SortedMap.find?_eq_none_iff.1 hr⟩

/-- **No entity is lost or planned twice**, whatever is decided. -/
theorem accountsFor_of_build (h : (build schema joins entities decide).result = .ok plan) :
    plan.AccountsFor entities := by
  obtain ⟨sorted, hsorted, hok, rfl⟩ := exists_order_of_build h
  have hbooks := Included.accounted_outcome hsorted hok
  have hmem : ∀ {id}, id ∈ sorted ↔ id < entities.size := EntitySet.mem_topologicalOrder_iff hsorted
  have hlt : ∀ x ∈ sorted, x < entities.size := fun x => hmem.1
  refine
    { partition := fun id hid => hbooks.partition hlt (hmem.2 hid)
      inside := ?_
      standIns_distinct := SortedMap.nodup_values hbooks.replaced_inj
      standIns_new := ?_
      size_eq := hbooks.size_eq
      numbered := fun id e he => EntitySet.id_of_get? he
      order_nodup := hbooks.nodup_order hlt (EntitySet.nodup_of_topologicalOrder hsorted)
      order_eq := ⟨sorted, hsorted, hbooks.order_eq⟩ }
  -- only ids that were decided are dropped or replaced, and all of them are in range
  · rintro id (hd | hr)
    · exact hlt id (hbooks.of_dropped id hd)
    · obtain ⟨t, ht⟩ := SortedMap.contains_eq_true_iff.1 hr
      exact hlt id (hbooks.of_replaced id t ht).1
  · intro t ht
    obtain ⟨id, hid⟩ := SortedMap.mem_values.1 ht
    exact ⟨(hbooks.of_replaced id t hid).2.2.1, hbooks.mem_order_of_replaced hid⟩

end Build

/-! ### A sample

An order requires its customer, and has a draft and a note; order and note refer to each other, and
the order refers to itself. -/

/-- A link to an entity. -/
def sampleLink (name : String) (id : EntityId) : Link := ⟨name, 0, .resolved id⟩

/-- The order, the note, the customer and the draft. -/
def sample : EntitySet :=
  let order := { Entity.extracted 0 "order" with
    required := [sampleLink "customer" 2]
    optional := .ofList [("draft", sampleLink "draft" 3), ("note", sampleLink "note" 1),
      ("self", sampleLink "self" 0)] }
  let note := { Entity.extracted 0 "note" with
    optional := .ofList [("about", sampleLink "about" 0), ("by", sampleLink "by" 2)] }
  (((∅ : EntitySet).push order).push note |>.push (.extracted 0 "customer")).push
    (.extracted 0 "draft")

/-- The customer is there already, and the draft is dropped. -/
def sampleDecider : Decider := fun e =>
  if e.label = "customer" then .existing else if e.label = "draft" then .drop else .keep

theorem exists_build_sample :
    ∃ plan, (build (.empty "main") ∅ sample sampleDecider).result = .ok plan ∧
      plan.order = [1, 4, 0] ∧ plan.dropped.keys = [3] ∧ plan.replaced.entries = [(2, 4)] := by
  have hsorted : sample.topologicalOrder = .ok [1, 2, 0, 3] :=
    EntitySet.topologicalOrder_eq_ok rfl rfl rfl
  have hok : (sample.applyInclusion [1, 2, 0, 3] sampleDecider).failure = none := by decide
  exact ⟨_, result_build_eq_ok hsorted hok, by decide, by decide, by decide⟩

theorem accountsFor_build_sample :
    ∃ plan, (build (.empty "main") ∅ sample sampleDecider).result = .ok plan ∧
      plan.order = [1, 4, 0] ∧ plan.AccountsFor sample := by
  obtain ⟨plan, h, horder, -, -⟩ := exists_build_sample
  exact ⟨plan, h, horder, accountsFor_of_build h⟩

end Plan

end FixturePlan
