import FixturePlan.Entity.Resolve
import FixturePlan.Proofs.Entity.Set

/-!
# Matching by index and by scan

The match of a placeholder is the first entity of its target table that has the values it looks for.
A `KeyIndex` finds exactly that entity (`getElem?_ofTable_tokens`). Values, tables and numbers, on
which an index depends, are the same for sets with the same `rows`; as resolution changes links only,
an index made earlier in a pass is as good as a new one (`lookup_fst`).
-/

namespace FixturePlan

namespace Entity

/-- An entity without its links. -/
def bare (e : Entity) : Entity := { e with required := [], optional := ∅ }

/-- Whether an entity has the values that a placeholder looks for. -/
def carries (e : Entity) (p : Placeholder) : Bool := p.keyValues.all fun kv => e.token? kv.1 = some kv.2

theorem carries_eq_true_iff {e : Entity} {p : Placeholder} :
    e.carries p = true ↔ ∀ kv ∈ p.keyValues, e.token? kv.1 = some kv.2 := by
  simp [carries]

theorem keyTokens?_eq_some_iff {e : Entity} {p : Placeholder} :
    e.keyTokens? p.names = some p.tokens ↔ e.carries p = true := by
  rw [carries_eq_true_iff]
  unfold keyTokens? Placeholder.names Placeholder.tokens
  induction p.keyValues with
  | nil => simp
  | cons kv rest ih =>
    cases hv : e.token? kv.1 with
    | none => simp [hv]
    | some v =>
      simp only [List.map_cons, List.mapM_cons, hv, List.forall_mem_cons, Option.some.injEq, ← ih]
      cases hrest : (rest.map (·.1)).mapM e.token? with
      | none => simp
      | some vs => simp

end Entity

namespace EntitySet

/-- The entities without their links. -/
def rows (s : EntitySet) : List Entity := s.toList.map Entity.bare

/-- Where the rows are the same, every entity is the same up to its links. -/
theorem map_bare_get?_of_rows_eq {a b : EntitySet} (h : a.rows = b.rows) (id : EntityId) :
    (a.get? id).map Entity.bare = (b.get? id).map Entity.bare := by
  rw [← getElem?_toList, ← getElem?_toList, ← List.getElem?_map, ← List.getElem?_map]
  exact congrArg (·[id]?) h

/-- The label of an entity does not depend on its links. -/
theorem label_eq_of_map_bare_eq {a b : EntitySet} {id : EntityId}
    (h : (a.get? id).map Entity.bare = (b.get? id).map Entity.bare) : a.label id = b.label id := by
  have hshown : ∀ s : EntitySet, (s.get? id).map (·.shown) =
      ((s.get? id).map Entity.bare).map (·.shown) := by
    intro s
    rw [Option.map_map]
    rfl
  rw [label, label, hshown, hshown, h]

/-- The first entity of the target table of a placeholder that has the values it looks for. -/
def firstMatch? (s : EntitySet) (p : Placeholder) : Option EntityId :=
  ((s.ofTable p.table).find? (·.carries p)).map (·.id)

/-- The entity of a number is one that a placeholder looks for. -/
def CarriesAt (s : EntitySet) (p : Placeholder) (id : EntityId) : Prop :=
  ∃ e, s.get? id = some e ∧ e.table = p.table ∧ e.carries p = true

/-- The first match is the least number at which there is one. -/
theorem firstMatch?_eq_some_iff {s : EntitySet} {p : Placeholder} {id : EntityId} :
    s.firstMatch? p = some id ↔ s.CarriesAt p id ∧ ∀ i < id, ¬s.CarriesAt p i := by
  simp only [firstMatch?, ofTable, CarriesAt, List.find?_filter, Option.map_eq_some_iff,
    List.find?_eq_some_iff_getElem, decide_eq_true_iff, Bool.not_eq_true', decide_eq_false_iff_not,
    beq_iff_eq]
  -- entities sit at their own numbers, so that first in the list is lowest in number
  constructor
  · rintro ⟨e, ⟨he, i, hi, rfl, hbefore⟩, rfl⟩
    have hget := (getElem?_toList i).symm.trans (List.getElem?_eq_getElem hi)
    rw [id_of_get? hget]
    refine ⟨⟨_, hget, he⟩, ?_⟩
    rintro j hj ⟨e', he', hmatch⟩
    rw [← getElem?_toList] at he'
    obtain ⟨hlt, rfl⟩ := List.getElem?_eq_some_iff.1 he'
    exact hbefore j hj hmatch
  · rintro ⟨⟨e, he, hcarries⟩, hbefore⟩
    refine ⟨e, ⟨hcarries, id, ?_⟩, id_of_get? he⟩
    rw [← getElem?_toList] at he
    obtain ⟨hlt, heq⟩ := List.getElem?_eq_some_iff.1 he
    refine ⟨hlt, heq, ?_⟩
    intro j hj hmatch
    refine hbefore j hj ⟨_, ?_, hmatch⟩
    rw [← getElem?_toList, List.getElem?_eq_getElem (Nat.lt_trans hj hlt)]

theorem firstMatch?_eq_none_iff {s : EntitySet} {p : Placeholder} :
    s.firstMatch? p = none ↔ ∀ id, ¬s.CarriesAt p id := by
  simp only [firstMatch?, ofTable, CarriesAt, List.find?_filter, Option.map_eq_none_iff,
    List.find?_eq_none, decide_eq_true_iff, beq_iff_eq, mem_toList_iff, forall_exists_index, not_and,
    not_exists]
  exact forall_comm

theorem rows_modify (s : EntitySet) (id : EntityId) {f : Entity → Entity}
    {keeps : ∀ e, (f e).id = e.id} (hbare : ∀ e, (f e).bare = e.bare) :
    (s.modify id f keeps).rows = s.rows := by
  refine List.ext_getElem? ?_
  intro i
  simp only [rows, List.getElem?_map, getElem?_toList, get?_modify]
  split
  · simp [Option.map_map, Function.comp_def, hbare]
  · rfl

theorem rows_setLink (s : EntitySet) (id : EntityId) (slot : LinkSlot) (target : Reference) :
    (s.setLink id slot target).rows = s.rows := by
  cases slot with
  | required position =>
    rw [setLink, rows_modify]
    exact fun _ => rfl
  | optional name =>
    rw [setLink, rows_modify]
    exact fun _ => rfl

theorem rows_removeOptional (s : EntitySet) (id : EntityId) (name : String) :
    (s.removeOptional id name).rows = s.rows := by
  rw [removeOptional, rows_modify]
  exact fun _ => rfl

end EntitySet

namespace KeyIndex

theorem getElem?_enter (names : List String) (index : KeyIndex) (e : Entity) (key : List Token) :
    (enter names index e)[key]? =
      index[key]?.or (if e.keyTokens? names = some key then some e.id else none) := by
  unfold enter
  cases hkey : e.keyTokens? names with
  | none => simp
  | some own =>
    simp only [Std.HashMap.getElem?_insertIfNew, Option.some.injEq, beq_iff_eq]
    -- the first entity of a key keeps it; a key of other values is left alone
    by_cases hown : own = key
    · subst hown
      cases hfound : index[own]? with
      | none =>
        have hmem : own ∉ index := by
          rw [← Std.HashMap.isSome_getElem?_iff_mem, hfound]
          exact Bool.false_ne_true
        simp [hmem]
      | some id =>
        have hmem : own ∈ index := by
          rw [← Std.HashMap.isSome_getElem?_iff_mem, hfound]
          rfl
        simp [hmem]
    · simp [hown]

/-- An index finds the first entity that was entered under a key. -/
theorem getElem?_foldl_enter (names : List String) (es : List Entity) (index : KeyIndex)
    (key : List Token) :
    (es.foldl (enter names) index)[key]? =
      index[key]?.or ((es.find? fun e => e.keyTokens? names = some key).map (·.id)) := by
  induction es generalizing index with
  | nil => simp
  | cons e rest ih =>
    rw [List.foldl_cons, ih, getElem?_enter, Option.or_assoc, List.find?_cons]
    by_cases hkey : e.keyTokens? names = some key <;> simp [hkey]

/-- An index finds what a scan of the table finds. -/
theorem getElem?_ofTable_tokens (s : EntitySet) (p : Placeholder) :
    (ofTable s p.table p.names)[p.tokens]? = s.firstMatch? p := by
  rw [ofTable, getElem?_foldl_enter, Std.HashMap.getElem?_empty, Option.none_or,
    EntitySet.firstMatch?]
  congr 2
  funext e
  rw [Bool.eq_iff_iff, decide_eq_true_iff, Entity.keyTokens?_eq_some_iff]

/-- An index depends on the rows only. -/
theorem ofTable_congr {a b : EntitySet} (h : a.rows = b.rows) (table : TableId)
    (names : List String) : ofTable a table names = ofTable b table names := by
  have hrows : ∀ s : EntitySet,
      ofTable s table names = (s.rows.filter (·.table == table)).foldl (enter names) ∅ := by
    intro s
    rw [EntitySet.rows, List.filter_map, List.foldl_map]
    rfl
  rw [hrows, hrows, h]

end KeyIndex

namespace Resolving

variable {schema : Schema} {s : EntitySet} {st : Resolving}

/-- The match of a placeholder in a set, if its key is complete. -/
def match? (schema : Schema) (s : EntitySet) (p : Placeholder) : Option EntityId :=
  if p.keyValues.length < keyWidth schema p then none else s.firstMatch? p

theorem carriesAt_of_match? {p : Placeholder} {id : EntityId} (h : match? schema s p = some id) :
    s.CarriesAt p id := by
  unfold match? at h
  split at h
  · cases h
  · exact (EntitySet.firstMatch?_eq_some_iff.1 h).1

/-- A pass that began with the set `s` has kept the rows, and its indexes are those of `s`. -/
structure Indexed (s : EntitySet) (st : Resolving) : Prop where
  rows_eq : st.entities.rows = s.rows
  index_eq : ∀ table names index, st.indexes[(table, names)]? = some index →
    index = KeyIndex.ofTable s table names

namespace Indexed

theorem start (s : EntitySet) (stats : ResolveStats) : Indexed s ⟨s, stats, ∅⟩ where
  rows_eq := rfl
  index_eq table names index h := by simp at h

theorem indexFor_eq (h : Indexed s st) (p : Placeholder) :
    st.indexFor p = KeyIndex.ofTable s p.table p.names := by
  unfold indexFor
  cases hfound : st.indexes[(p.table, p.names)]? with
  | none => exact KeyIndex.ofTable_congr h.rows_eq p.table p.names
  | some index => exact h.index_eq _ _ _ hfound

/-- Looking up finds the match in the set that the pass began with. -/
theorem lookup_fst (schema : Schema) (h : Indexed s st) (p : Placeholder) :
    (lookup schema st p).1 = match? schema s p := by
  unfold lookup match?
  split
  · rfl
  · show (st.indexFor p)[p.tokens]? = _
    rw [h.indexFor_eq, KeyIndex.getElem?_ofTable_tokens]

theorem lookup_snd (schema : Schema) (h : Indexed s st) (p : Placeholder) :
    Indexed s (lookup schema st p).2 ∧ (lookup schema st p).2.entities = st.entities ∧
      (lookup schema st p).2.stats = st.stats := by
  unfold lookup
  split
  · exact ⟨h, rfl, rfl⟩
  · refine ⟨⟨h.rows_eq, ?_⟩, rfl, rfl⟩
    intro table names index hindex
    simp only [Std.HashMap.getElem?_insert, beq_iff_eq, Prod.mk.injEq] at hindex
    split at hindex
    · next heq =>
      obtain ⟨rfl, rfl⟩ := heq
      obtain rfl := Option.some.inj hindex
      exact h.indexFor_eq p
    · exact h.index_eq table names index hindex

/-- Steps that change links only keep the indexes right. -/
theorem of_rows_eq {entities : EntitySet} {stats : ResolveStats} (h : Indexed s st)
    (hrows : entities.rows = st.entities.rows) : Indexed s ⟨entities, stats, st.indexes⟩ where
  rows_eq := hrows.trans h.rows_eq
  index_eq := h.index_eq

end Indexed

end Resolving

end FixturePlan
