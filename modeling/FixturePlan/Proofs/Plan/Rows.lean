import FixturePlan.Proofs.Entity.Matching
import FixturePlan.Proofs.Plan.Inclusion

/-!
# What inclusion leaves alone

Inclusion changes nothing of an entity but its links, and adds nothing but stand-ins (`RowsKept`). This
holds of every step, and of a pass that stops as well as of one that succeeds.
-/

namespace FixturePlan

namespace Entity

theorem kind_of_bare {e e' : Entity} (h : e.bare = e'.bare) : e.kind = e'.kind :=
  congrArg (·.kind) h

theorem shown_of_bare {e e' : Entity} (h : e.bare = e'.bare) : e.shown = e'.shown :=
  congrArg (·.shown) h

end Entity

namespace Included

/-- The entities that a pass began with are the same up to their links, and all others are
stand-ins. -/
structure RowsKept (s : EntitySet) (st : Included) : Prop where
  size_le : s.size ≤ st.entities.size
  bare_eq : ∀ id < s.size, (st.entities.get? id).map (·.bare) = (s.get? id).map (·.bare)
  standIn : ∀ id e, s.size ≤ id → st.entities.get? id = some e → ∃ replaced, e.kind = .existing replaced

namespace RowsKept

variable {s : EntitySet} {st : Included} {id : EntityId}

theorem start (s : EntitySet) : RowsKept s (.start s) where
  size_le := Nat.le_refl _
  bare_eq _ _ := rfl
  standIn _ _ hge he := absurd (EntitySet.lt_size_of_get? he) (Nat.not_lt_of_le hge)

/-- Whatever leaves all entities as they are up to their links, keeps the rows. -/
theorem of_bare_eq {st' : Included} (h : RowsKept s st) (hsize : st'.entities.size = st.entities.size)
    (hsame : ∀ id, (st'.entities.get? id).map (·.bare) = (st.entities.get? id).map (·.bare)) :
    RowsKept s st' where
  size_le := hsize ▸ h.size_le
  bare_eq id hlt := (hsame id).trans (h.bare_eq id hlt)
  standIn id e' hge he' := by
    have hbare := hsame id
    rw [he', Option.map_some, eq_comm, Option.map_eq_some_iff] at hbare
    obtain ⟨e, he, hbare⟩ := hbare
    obtain ⟨replaced, hkind⟩ := h.standIn id e hge he
    exact ⟨replaced, (Entity.kind_of_bare hbare).symm.trans hkind⟩

theorem clearDropped (h : RowsKept s st) (id : EntityId) : RowsKept s (st.clearDropped id) := by
  refine h.of_bare_eq (size_clearDropped st id) ?_
  intro x
  rw [get?_clearDropped]
  split
  · rw [Option.map_map]
    rfl
  · rfl

theorem place (h : RowsKept s st) (id : EntityId) : RowsKept s (st.place id) :=
  (h.clearDropped id).of_bare_eq rfl fun _ => rfl

theorem clearAll (h : RowsKept s st) (ids : List EntityId) : RowsKept s (st.clearAll ids).state := by
  induction ids generalizing st with
  | nil => exact h
  | cons id rest ih => exact ih (h.clearDropped id)

theorem replace (h : RowsKept s st) (id : EntityId) (e : Entity) (rest : List EntityId) :
    RowsKept s (st.replace id e rest) := by
  -- a redirect changes links and nothing else
  have hget : ∀ x, ((st.replace id e rest).entities.get? x).map (·.bare) =
      ((st.entities.push e.standIn).get? x).map (·.bare) := by
    intro x
    rw [Included.replace, get?_redirectAll]
    split
    · rw [Option.map_map]
      rfl
    · rfl
  refine ⟨?_, ?_, ?_⟩
  · rw [size_replace]
    exact Nat.le_succ_of_le h.size_le
  · intro x hlt
    have hne : x ≠ st.entities.size := Nat.ne_of_lt (Nat.lt_of_lt_of_le hlt h.size_le)
    rw [hget, EntitySet.get?_push, if_neg hne]
    exact h.bare_eq x hlt
  · intro x e' hge he'
    have hbare := hget x
    rw [he', Option.map_some, eq_comm, Option.map_eq_some_iff] at hbare
    obtain ⟨e₀, he₀, hbare⟩ := hbare
    rw [← Entity.kind_of_bare hbare]
    rw [EntitySet.get?_push] at he₀
    split at he₀
    · obtain rfl := Option.some.inj he₀
      exact ⟨e.id, rfl⟩
    · exact h.standIn x e₀ hge he₀

theorem decideOne (h : RowsKept s st) (decide : Decider) (id : EntityId) (rest : List EntityId) :
    RowsKept s (decideOne decide st id rest).state := by
  apply decideOne_of_each (P := fun st _ => RowsKept s st)
  · exact h
  · exact h.place id
  · exact h.of_bare_eq rfl fun _ => rfl
  · intro e _
    exact h.replace id e rest

/-- What was there at the beginning keeps its label. -/
theorem label_eq (h : RowsKept s st) (hlt : id < s.size) : st.entities.label id = s.label id :=
  EntitySet.label_eq_of_map_bare_eq (h.bare_eq id hlt)

end RowsKept

/-- A whole pass keeps the rows. -/
theorem rowsKept_outcome {decide : Decider} {s : EntitySet} {order : List EntityId}
    (hok : (decideAll decide (.start s) order).failure = none) :
    RowsKept s (outcome decide s order) := by
  have hall := decideAll_of_step (P := fun _ st => RowsKept s st)
    (fun id rest _ h _ => h.decideOne decide id rest) (.start s) hok
  exact hall.clearAll _

end Included

end FixturePlan
