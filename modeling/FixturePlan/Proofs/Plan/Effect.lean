import FixturePlan.Proofs.Plan.Accounting

/-!
# What inclusion does to an entity

A pass touches an entity many times: its links are redirected whenever another entity is replaced, and
its optional links to dropped entities go when it is placed and once more at the end. What comes out is
nevertheless one substitution (`Entity.included`): links to dropped entities are gone, and every other
link leads to what stands in the place of its target (`EntitySet.applyInclusion_effect`).

The order of the steps does not matter because redirecting and clearing commute: a replaced entity and
its stand-in are never dropped (`Entity.clearOptional_redirect`). While a pass goes on, some links to
dropped entities may still be there, so that the invariant speaks of entities up to these links
(`Included.Follows`).
-/

namespace FixturePlan

namespace SortedMap

variable {κ α β : Type} [LT κ]

/-- To filter the new values is to filter the old ones by what becomes of them. -/
theorem filter_mapValues {f : κ → α → β} {p : κ → β → Bool} {q : κ → α → Bool}
    (h : ∀ k a, p k (f k a) = q k a) (m : SortedMap κ α) :
    (m.mapValues f).filter p = (m.filter q).mapValues f := by
  apply SortedMap.ext
  show (m.entries.map fun e => (e.1, f e.1 e.2)).filter (fun e => p e.1 e.2) = _
  rw [List.filter_map]
  show _ = (m.entries.filter fun e => q e.1 e.2).map fun e => (e.1, f e.1 e.2)
  congr 2
  funext e
  exact h e.1 e.2

end SortedMap

/-! ### One substitution

Every decision redirects to a stand-in or clears links to what was dropped. These steps add up to one
substitution with all of the stand-ins and one clearing with all of the dropped. -/

/-- A reference that leads to the stand-in of its entity, if there is one. -/
def Reference.rerouted (replaced : SortedMap EntityId EntityId) : Reference → Reference
  | .resolved id => .resolved ((replaced.find? id).getD id)
  | .placeholder p => .placeholder p
  | .unresolved p => .unresolved p

/-- A link that leads to the stand-in of its entity, if there is one. -/
def Link.rerouted (replaced : SortedMap EntityId EntityId) (l : Link) : Link :=
  { l with target := l.target.rerouted replaced }

namespace Entity

/-- An entity whose links lead to the stand-ins of their entities. -/
def rerouted (replaced : SortedMap EntityId EntityId) (e : Entity) : Entity :=
  { e with
    required := e.required.map (·.rerouted replaced)
    optional := e.optional.mapValues fun _ l => l.rerouted replaced }

/-- An entity as inclusion leaves it: without its optional links to dropped entities, and with its
other links leading to the stand-ins of their entities. -/
def included (dropped : SortedMap EntityId Unit) (replaced : SortedMap EntityId EntityId)
    (e : Entity) : Entity :=
  { e with
    required := e.required.map (·.rerouted replaced)
    optional := (e.optional.filter fun _ l => !leadsInto dropped.contains l).mapValues
      fun _ l => l.rerouted replaced }

theorem rerouted_empty (e : Entity) : e.rerouted ∅ = e := by
  have hlink : ∀ l : Link, l.rerouted ∅ = l := by
    rintro ⟨name, key, target⟩
    cases target <;> rfl
  simp [rerouted, hlink, SortedMap.mapValues]

/-- A further stand-in is one more redirection, where no stand-in is itself replaced. -/
theorem redirect_rerouted {replaced : SortedMap EntityId EntityId} {id : EntityId}
    (hnew : replaced.find? id = none) (hstands : ∀ x t, replaced.find? x = some t → t ≠ id)
    (target : EntityId) (e : Entity) :
    (e.rerouted replaced).redirect id target = e.rerouted (replaced.insert id target) := by
  have hlink : ∀ l : Link, ({ l.rerouted replaced with
      target := (l.rerouted replaced).target.redirect id target } : Link) =
        l.rerouted (replaced.insert id target) := by
    rintro ⟨name, key, reference⟩
    simp only [Link.rerouted, Link.mk.injEq, true_and]
    cases reference with
    | placeholder p => rfl
    | unresolved p => rfl
    | resolved x =>
      simp only [Reference.rerouted, Reference.redirect, Reference.resolved.injEq,
        SortedMap.find?_insert]
      by_cases hx : x = id
      · simp [hx, hnew]
      · cases ht : replaced.find? x with
        | none => simp [hx]
        | some t => simp [hx, hstands x t ht]
  simp [rerouted, redirect, SortedMap.mapValues, Function.comp_def, hlink]

/-- A redirection between entities that are both cleared or both not commutes with clearing. -/
theorem clearOptional_redirect {p : EntityId → Bool} {source target : EntityId}
    (h : p target = p source) (e : Entity) :
    (e.redirect source target).clearOptional p = (e.clearOptional p).redirect source target := by
  have hleads : ∀ l : Link,
      (!leadsInto p { l with target := l.target.redirect source target }) = !leadsInto p l := by
    intro l
    rw [leadsInto, leadsInto, Reference.entity?_redirect, Option.any_map]
    congr 2
    funext x
    by_cases hx : x = source
    · simp [hx, h]
    · simp [Reference.turn_of_ne hx]
  simp only [clearOptional, redirect, Entity.mk.injEq, true_and]
  apply SortedMap.filter_mapValues
  intro _ l
  exact hleads l

/-- Clearing more afterwards makes clearing before superfluous. -/
theorem clearOptional_clearOptional_of_imp {p q : EntityId → Bool} (h : ∀ x, p x = true → q x = true)
    (e : Entity) : (e.clearOptional p).clearOptional q = e.clearOptional q := by
  have hleads : ∀ l : Link, (!leadsInto q l && !leadsInto p l) = !leadsInto q l := by
    intro l
    unfold leadsInto
    cases l.target.entity? with
    | none => rfl
    | some x =>
      cases hp : p x with
      | false => simp [hp]
      | true => simp [hp, h x hp]
  simp [clearOptional, SortedMap.filter, List.filter_filter, hleads]

/-- Rerouting and then clearing is the substitution, if a replaced entity is dropped no more than its
stand-in. -/
theorem clearOptional_rerouted {dropped : SortedMap EntityId Unit}
    {replaced : SortedMap EntityId EntityId}
    (h : ∀ id t, replaced.find? id = some t → dropped.contains t = dropped.contains id) (e : Entity) :
    (e.rerouted replaced).clearOptional dropped.contains = e.included dropped replaced := by
  have hleads : ∀ l : Link,
      (!leadsInto dropped.contains (l.rerouted replaced)) = !leadsInto dropped.contains l := by
    rintro ⟨name, key, reference⟩
    cases reference with
    | placeholder p => rfl
    | unresolved p => rfl
    | resolved id =>
      show (!dropped.contains ((replaced.find? id).getD id)) = !dropped.contains id
      cases ht : replaced.find? id with
      | none => rfl
      | some t => rw [Option.getD_some, h id t ht]
  simp only [clearOptional, rerouted, included, Entity.mk.injEq, true_and]
  apply SortedMap.filter_mapValues
  intro _ l
  exact hleads l

end Entity

namespace Included

/-- How the entities of a pass follow from those that it began with: one that is neither dropped nor
replaced is the old one rerouted, up to optional links to dropped entities, and a stand-in is the row
that it stands for. -/
structure Follows (s : EntitySet) (st : Included) : Prop where
  live : ∀ id e, s.get? id = some e → st.isDropped id = false → st.replaced.find? id = none →
    ∃ e', st.entities.get? id = some e' ∧
      e'.clearOptional st.isDropped = (e.rerouted st.replaced).clearOptional st.isDropped
  standIn : ∀ id t, st.replaced.find? id = some t →
    ∃ e, s.get? id = some e ∧ st.entities.get? t = some { e.standIn with id := t }

namespace Follows

variable {s : EntitySet} {st : Included} {id : EntityId} {e : Entity}

theorem start (s : EntitySet) : Follows s (.start s) where
  live id e he _ _ := ⟨e, he, by rw [Included.start, Entity.rerouted_empty]⟩
  standIn id t ht := by simp [Included.start] at ht

theorem place (h : Follows s st) (id : EntityId) : Follows s (st.place id) where
  live x e he hd hr := by
    obtain ⟨e', he', hsame⟩ := h.live x e he hd hr
    rw [get?_place, he']
    split
    · exact ⟨_, rfl, (Entity.clearOptional_clearOptional _ _).trans hsame⟩
    · exact ⟨e', rfl, hsame⟩
  standIn x t ht := by
    obtain ⟨e, he, hstand⟩ := h.standIn x t ht
    refine ⟨e, he, ?_⟩
    -- a stand-in has no links to clear
    rw [get?_place, hstand]
    split <;> rfl

theorem drop (h : Follows s st) (id : EntityId) : Follows s (st.drop id) where
  live x e he hd hr := by
    rw [Accounted.isDropped_drop, Bool.or_eq_false_iff] at hd
    obtain ⟨e', he', hsame⟩ := h.live x e he hd.2 hr
    have hmore : ∀ y, st.isDropped y = true → (st.drop id).isDropped y = true := by
      intro y hy
      rw [Accounted.isDropped_drop, hy, Bool.or_true]
    refine ⟨e', he', ?_⟩
    rw [← Entity.clearOptional_clearOptional_of_imp hmore, hsame,
      Entity.clearOptional_clearOptional_of_imp hmore]
    rfl
  standIn := h.standIn

variable {order decided rest : List EntityId} (hperm : order.Perm (List.range s.size))
  (hsplit : order = decided ++ id :: rest) (hid : id ∉ decided)
  (hbooks : Accounted s.size decided st)

theorem find?_replace (x : EntityId) : (st.replace id e rest).replaced.find? x =
    if x = id then some st.entities.size else st.replaced.find? x :=
  SortedMap.find?_insert st.replaced id x st.entities.size

include hperm hsplit in
theorem mem_split_iff (x : EntityId) : x ∈ decided ++ id :: rest ↔ x < s.size := by
  rw [← hsplit, hperm.mem_iff, List.mem_range]

include hperm hsplit hid hbooks in
theorem live_replace (h : Follows s st) {x : EntityId} {e₀ : Entity} (he₀ : s.get? x = some e₀)
    (hd : st.isDropped x = false) (hr : st.replaced.find? x = none) (hne : x ≠ id) :
    ∃ e', (st.replace id e rest).entities.get? x = some e' ∧ e'.clearOptional st.isDropped =
      (e₀.rerouted (st.replace id e rest).replaced).clearOptional st.isDropped := by
  have hmem := mem_split_iff hperm hsplit
  have hidlt : id < s.size := (hmem id).1 (by simp)
  have hlt : x < s.size := EntitySet.lt_size_of_get? he₀
  obtain ⟨hlive, hnew⟩ := hbooks.of_not_mem hid
  have hsize : s.size ≤ st.entities.size := hbooks.size_eq ▸ Nat.le_add_right _ _
  -- neither the entity nor its stand-in is dropped, so that redirecting commutes with clearing
  have hboth : st.isDropped st.entities.size = st.isDropped id := by
    rw [hlive, Bool.eq_false_iff]
    intro hd
    have hlt := (hmem _).1 (List.mem_append_left _ (hbooks.of_dropped _ hd))
    exact Nat.not_lt_of_le hsize hlt
  have hstands : ∀ x t, st.replaced.find? x = some t → t ≠ id := by
    rintro x t ht rfl
    exact Nat.not_lt_of_le (hbooks.of_replaced x t ht).2.2.1 hidlt
  have hplaced : x ∈ st.order ++ rest := by
    rcases List.mem_append.1 ((hmem x).2 hlt) with hx | hx
    · have hstanding : st.standing? x = some x :=
        standing?_eq_some_iff.2 ⟨hd, Or.inr ⟨hr, rfl⟩⟩
      exact List.mem_append_left _ (hbooks.mem_order_iff.2 ⟨x, hx, hstanding⟩)
    · exact List.mem_append_right _ ((List.mem_cons.1 hx).resolve_left hne)
  obtain ⟨e', he', hsame⟩ := h.live x e₀ he₀ hd hr
  rw [get?_replace hplaced (Nat.lt_of_lt_of_le hlt hsize), he']
  refine ⟨_, rfl, ?_⟩
  rw [Entity.clearOptional_redirect hboth, hsame, ← Entity.clearOptional_redirect hboth,
    Entity.redirect_rerouted hnew hstands]
  rfl

include hperm hsplit hid hbooks in
/-- The stand-in is the row of the entity that it stands for, without links. -/
theorem standIn_replace (h : Follows s st) (he : st.entities.get? id = some e) :
    ∃ e₀, s.get? id = some e₀ ∧ (st.replace id e rest).entities.get? st.entities.size =
      some { e₀.standIn with id := st.entities.size } := by
  have hidlt : id < s.size := (mem_split_iff hperm hsplit id).1 (by simp)
  obtain ⟨hlive, hnew⟩ := hbooks.of_not_mem hid
  obtain ⟨e₀, he₀⟩ := EntitySet.exists_get?_of_lt hidlt
  obtain ⟨e', he', hsame⟩ := h.live id e₀ he₀ hlive hnew
  obtain rfl : e' = e := Option.some.inj (he'.symm.trans he)
  refine ⟨e₀, he₀, ?_⟩
  have hstandIn : e'.standIn = e₀.standIn := by
    show (e'.clearOptional st.isDropped).standIn = _
    rw [hsame]
    rfl
  rw [get?_replace_self, hstandIn]
  rfl

include hperm hsplit hid hbooks in
theorem replace (h : Follows s st) (he : st.entities.get? id = some e) :
    Follows s (st.replace id e rest) where
  live x e₀ he₀ hd hr := by
    rw [find?_replace] at hr
    split at hr
    · cases hr
    · next hne => exact h.live_replace hperm hsplit hid hbooks he₀ hd hr hne
  standIn x t ht := by
    rw [find?_replace] at ht
    split at ht
    · next heq =>
      subst heq
      obtain rfl := Option.some.inj ht
      exact h.standIn_replace hperm hsplit hid hbooks he
    · obtain ⟨e₀, he₀, hstand⟩ := h.standIn x t ht
      obtain ⟨-, -, -, hlt⟩ := hbooks.of_replaced x t ht
      refine ⟨e₀, he₀, ?_⟩
      rw [get?_replace (List.mem_append_left _ (hbooks.mem_order_of_replaced ht)) hlt, hstand]
      rfl

include hperm hsplit hid hbooks in
/-- One decision about the next entity of an order that has every entity once. -/
theorem decideOne {decide : Decider} (h : Follows s st)
    (hok : (decideOne decide st id rest).failure = none) :
    Follows s (Included.decideOne decide st id rest).state := by
  have hidlt : id < s.size := List.mem_range.1 (hperm.mem_iff.1 (by simp [hsplit]))
  have hsize : s.size ≤ st.entities.size := hbooks.size_eq ▸ Nat.le_add_right _ _
  obtain ⟨e, he⟩ := EntitySet.exists_get?_of_lt (Nat.lt_of_lt_of_le hidlt hsize)
  rcases decideOne_cases he hok with ⟨-, -, hst⟩ | ⟨-, hst⟩ | ⟨-, hst⟩
  · exact hst ▸ h.place id
  · exact hst ▸ h.drop id
  · exact hst ▸ h.replace hperm hsplit hid hbooks he

end Follows

variable {decide : Decider} {s : EntitySet} {order : List EntityId}

/-- The entities after the decisions about all of them. -/
theorem follows_decideAll (hperm : order.Perm (List.range s.size))
    (hok : (decideAll decide (.start s) order).failure = none) :
    Follows s (decideAll decide (.start s) order).state ∧
      Accounted s.size order (decideAll decide (.start s) order).state := by
  have hnodup : order.Nodup := hperm.nodup_iff.2 List.nodup_range
  have hlt : ∀ x ∈ order, x < s.size := by
    intro x hx
    exact List.mem_range.1 (hperm.mem_iff.1 hx)
  refine accounted_of_step (P := fun _ st => Follows s st) hnodup hlt ?_ (.start s) hok
  intro decided id rest st hsplit hid hbooks hfollows hone
  exact hfollows.decideOne hperm hsplit hid hbooks hone

end Included

/-- A successful pass along an order that has every entity once, as a topological one does, leaves
**one substitution** of every entity that it keeps, and stand-ins without links. -/
theorem EntitySet.applyInclusion_effect {s : EntitySet} {order : List EntityId} {decide : Decider}
    (hperm : order.Perm (List.range s.size)) (hok : (s.applyInclusion order decide).failure = none) :
    let st := (s.applyInclusion order decide).state
    (∀ id e, s.get? id = some e → st.dropped.contains id = false →
      st.replaced.contains id = false →
      st.entities.get? id = some (e.included st.dropped st.replaced)) ∧
    ∀ id t, st.replaced.find? id = some t → ∃ e, s.get? id = some e ∧
      st.entities.get? t = some ⟨t, e.table, .existing id, e.label, e.values, [], ∅⟩ := by
  obtain ⟨hdecide, hstate⟩ := Included.applyInclusion_of_failure hok
  obtain ⟨hfollows, hbooks⟩ := Included.follows_decideAll hperm hdecide
  rw [hstate]
  unfold Included.outcome
  generalize (Included.decideAll decide (.start s) order).state = st at hfollows hbooks
  obtain ⟨-, -, hdropped, hreplaced, -⟩ := Included.clearAll_eq st st.order
  simp only [hdropped, hreplaced, Included.get?_clearAll]
  refine ⟨?_, ?_⟩
  · intro id e he hd hr
    have hnone : st.replaced.find? id = none := SortedMap.find?_eq_none_iff.2 hr
    obtain ⟨e', he', hsame⟩ := hfollows.live id e he hd hnone
    have hmem : id ∈ st.order := by
      have hstanding : st.standing? id = some id :=
        Included.standing?_eq_some_iff.2 ⟨hd, Or.inr ⟨hnone, rfl⟩⟩
      have hall : id ∈ order := hperm.mem_iff.2 (List.mem_range.2 (lt_size_of_get? he))
      exact hbooks.mem_order_iff.2 ⟨id, hall, hstanding⟩
    -- what is replaced was not dropped, and no stand-in is
    have hlive : ∀ x t, st.replaced.find? x = some t →
        st.dropped.contains t = st.dropped.contains x := by
      intro x t ht
      have hlt : ∀ y ∈ order, y < s.size := fun y hy => List.mem_range.1 (hperm.mem_iff.1 hy)
      have hstandIn := hbooks.live_of_mem_order hlt (hbooks.mem_order_of_replaced ht)
      exact hstandIn.1.trans (hbooks.of_replaced x t ht).2.1.symm
    rw [if_pos hmem, he', Option.map_some, hsame]
    exact congrArg some (Entity.clearOptional_rerouted hlive e)
  · intro id t ht
    obtain ⟨e, he, hstand⟩ := hfollows.standIn id t ht
    refine ⟨e, he, ?_⟩
    -- a stand-in has no links to clear
    rw [hstand, ← EntitySet.id_of_get? he]
    split <;> rfl

namespace Plan

theorem applyInclusion_effect_sample :
    let st := (sample.applyInclusion [1, 2, 0, 3] sampleDecider).state
    st.dropped.keys = [3] ∧ st.replaced.entries = [(2, 4)] ∧
      (∃ e, st.entities.get? 0 = some e ∧ e.required = [sampleLink "customer" 4] ∧
        e.optional.entries =
          [("note", sampleLink "note" 1), ("self", sampleLink "self" 0)]) ∧
      st.entities.get? 4 = some ⟨4, 0, .existing 2, "customer", [], [], ∅⟩ := by
  have hperm : List.Perm [1, 2, 0, 3] (List.range sample.size) := by decide
  have hok : (sample.applyInclusion [1, 2, 0, 3] sampleDecider).failure = none := by decide
  obtain ⟨hkept, hstandIn⟩ := EntitySet.applyInclusion_effect hperm hok
  obtain ⟨e, he, hget⟩ := hstandIn 2 4 (by decide)
  obtain rfl := Option.some.inj he
  exact ⟨by decide, by decide, ⟨_, hkept 0 _ rfl (by decide) (by decide), by decide, by decide⟩,
    hget⟩

end Plan

end FixturePlan
