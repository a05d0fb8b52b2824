import FixturePlan.Proofs.Entity.Join
import FixturePlan.Proofs.Strategy.WholeNumber

/-!
# Keys of whole numbers

Where a key leads to columns of whole numbers and literals are the tokens, a row joins the rows whose key
writes the same numerals (`Extractor.joins_iff_sharesNumerals`). A number that is stored as a text thus
finds the row that stores it as an integer if the text spells it plainly, and no such row otherwise
(`Extractor.numbers_match_as_spelled`).
-/

namespace FixturePlan

open Number

namespace Extractor

variable (x : Extractor) (order : List TableId)

/-- A key leads to columns of whole numbers, and a row has a numeral or nothing in each of its columns. -/
structure HoldsNumbers (k : ForeignKey) (o : Origin) : Prop where
  column : ∀ u, x.schema.table? k.target = some u → ∀ p ∈ k.pairs, ∀ c,
    u.columns[p.targetIndex]? = some c →
      Literal.WholeColumn c.dataType.code (x.strategies.targetType c)
  source : ∀ p ∈ k.pairs, ∀ v, o.cell? p.sourceIndex = some v → v.isNull = false →
    ∃ n, Literal.Writes v n

/-- A row has in the columns of a key the numerals that another has in the columns that the key leads
to. -/
structure SharesNumerals (k : ForeignKey) (o o' : Origin) : Prop where
  table_eq : o'.table.id = k.target
  pairs : ∀ p ∈ k.pairs, ∃ v w, o.cell? p.sourceIndex = some v ∧ o'.cell? p.targetIndex = some w ∧
    Literal.SameNumeral v w

/-- A row shares its numerals with the extracted row of a number. -/
def SharesNumeralsAt (k : ForeignKey) (o : Origin) (j : EntityId) : Prop :=
  ∃ o', (x.origins order)[j]? = some o' ∧ SharesNumerals k o o'

variable {x order} {k : ForeignKey} {o : Origin}

/-- Joining by tokens is sharing numerals. -/
theorem joins_iff_sharesNumerals (hrendering : x.strategies.rendering = .literal)
    (hs : x.schema.WellFormed) (hk : k ∈ x.schema.foreignKeys) (hnumbers : x.HoldsNumbers k o)
    {o' : Origin} (ho' : o' ∈ x.origins order) : x.Joins k o o' ↔ SharesNumerals k o o' := by
  have hu : o'.table.id = k.target → x.schema.table? k.target = some o'.table := by
    intro hid
    rw [← hid, hs.table?_id (x.table_mem_of_mem_origins ho')]
  have hrender : ∀ v w c, x.strategies.render v c = x.strategies.render w c ↔
      Literal.ofCell v c.dataType.code (x.strategies.targetType c) =
        Literal.ofCell w c.dataType.code (x.strategies.targetType c) := by
    intro v w c
    rw [Strategies.render, Strategies.render, hrendering]
    exact Token.mk.injEq .. ▸ Iff.rfl
  -- per pair of columns: the tokens are equal just when both cells write one number
  constructor
  · rintro ⟨hid, hpairs⟩
    refine ⟨hid, fun p hp => ?_⟩
    obtain ⟨v, w, c, hv, hnull, hw, -, hc, heq⟩ := hpairs p hp
    have hwhole := hnumbers.column _ (hu hid) p hp c hc
    exact ⟨v, w, hv, hw, (Literal.ofCell_eq_iff_sameNumeral hwhole
      (hnumbers.source p hp v hv hnull)).1 ((hrender v w c).1 heq)⟩
  · rintro ⟨hid, hpairs⟩
    refine ⟨hid, fun p hp => ?_⟩
    obtain ⟨v, w, hv, hw, n, hn, hn'⟩ := hpairs p hp
    obtain ⟨c, hc, -⟩ := exists_column hs hk (hu hid) hp
    have hwhole := hnumbers.column _ (hu hid) p hp c hc
    exact ⟨v, w, c, hv, hn.isNull_eq, hw, hn'.isNull_eq, hc,
      (hrender v w c).2 ((Literal.ofCell_eq_iff_sameNumeral hwhole ⟨n, hn⟩).2 ⟨n, hn, hn'⟩)⟩

theorem joinsAt_iff_sharesNumeralsAt (hrendering : x.strategies.rendering = .literal)
    (hs : x.schema.WellFormed) (hk : k ∈ x.schema.foreignKeys) (hnumbers : x.HoldsNumbers k o)
    {j : EntityId} : x.JoinsAt order k o j ↔ x.SharesNumeralsAt order k o j :=
  exists_congr fun _ => and_congr_right fun ho' =>
    joins_iff_sharesNumerals hrendering hs hk hnumbers (List.mem_of_getElem? ho')

/-- In a column of whole numbers, a text that holds a numeral is rendered as it is spelled, so it has the
token of the integer that it denotes if and only if the numeral is plain. After extraction and a pass that
succeeds, the link of a row by a key of whole numbers leads to the first row whose cells write the same
numerals, and nowhere if there is none. -/
theorem numbers_match_as_spelled (typeName : String) {code : TypeCode} {target : String}
    (hwhole : Literal.WholeColumn code target) :
    (∀ (s : String) (n : Numeral), Text.trimChars s.toList = n.written →
      (Rendering.literal (.text s) typeName code target).text = String.ofList n.written ∧
      (Rendering.literal (.text s) typeName code target =
        Rendering.literal (.integer n.value) typeName code target ↔ n.Plain)) ∧
    ∀ (x : Extractor) (metadata : Source) (exclude : List Text.Pattern) (name : String)
      (order : List TableId) (policy : UnresolvedPolicy), x.strategies.rendering = .literal →
      (Schema.build metadata exclude name).result = .ok x.schema → x.NamesApart order →
      (x.extract order).failure = none →
      ((x.extract order).state.entities.resolve x.schema policy).failure = none →
      ∀ i o, (x.origins order)[i]? = some o →
        ∃ e, ((x.extract order).state.entities.resolve x.schema policy).state.entities.get? i = some e ∧
          ∀ k ∈ x.schema.outgoing o.table, x.HoldsNumbers k o → ∀ j,
            e.LinkedBy k.id (.resolved j) ↔
              x.SharesNumeralsAt order k o j ∧ ∀ j' < j, ¬x.SharesNumeralsAt order k o j' := by
  constructor
  · intro s n hs
    have hwrites : Literal.Writes (.text s) n := .text hs
    refine ⟨(Literal.ofCell_eq_iff_writes hwhole _).2 hwrites, ?_⟩
    rw [Rendering.literal, Rendering.literal, Token.mk.injEq,
      Literal.ofCell_eq_iff_sameNumeral hwhole ⟨n, hwrites⟩, Literal.sameNumeral_text_integer_iff hs]
  -- one column speaks of tokens, so that the statement on links is the join, read with numerals
  · intro x metadata exclude name order policy hrendering hbuild hnames hextract hresolve i o ho
    have hs := Schema.wellFormed_of_build hbuild
    have htable := x.table_mem_of_mem_origins (List.mem_of_getElem? ho)
    obtain ⟨e, he, hentity⟩ := x.exists_get?_of_origin hextract ho
    refine ⟨e.settled (Resolving.match? x.schema (x.extract order).state.entities), ?_,
      fun k hout hnumbers j => ?_⟩
    · rw [EntitySet.entities_resolve hresolve, EntitySet.settled, EntitySet.get?_map, he,
        Option.map_some]
    have hk := ((hs.mem_outgoing_iff htable).1 hout).1
    rw [linkedBy_resolved_iff x hs hnames hextract hentity htable hout]
    simp only [joinsAt_iff_sharesNumeralsAt hrendering hs hk hnumbers]

/-! ### A sample

Letters name the house that they go to by its number, as a text. -/

/-- The column of letters, or else of houses. -/
def letterColumn (table : String) : ColumnInfo :=
  if table = "letter" then ⟨some "house", 0, "TEXT", TypeCode.varChar, false, false, none, none⟩
  else ⟨some "number", 0, "INTEGER", TypeCode.integer, false, false, none, none⟩

/-- The source of letters with the given texts in place of a number, and of one house, number 7. -/
def letterSource (texts : List String) : Source where
  listTables _ := .ok [.table "main" "letter", .table "main" "house"]
  columns info := .ok [letterColumn info.name]
  primaryKey _ := .ok []
  importedKeys info := .ok (if info.name = "house" then [] else
    [⟨"to", 1, "house", "main", "house", "number", 1⟩])
  vendor _ := .ok ∅
  scan _ table _ := .ok ⟨[if table = "house" then [⟨["number"], [.integer 7]⟩] else
    texts.map fun s => ⟨["house"], [.text s]⟩], none⟩

/-- A table of the sample without its keys. -/
def letterTable (id : TableId) (name : String) (column : Column) : Table :=
  { id, name := ⟨"main", name⟩, columns := [column], primaryKey := [], outgoing := [], incoming := [] }

/-- The tables of the sample without their keys. -/
def letterTables : List Table :=
  [letterTable 0 "letter" ⟨"house", ⟨"TEXT", TypeCode.varChar, false, none, none⟩, false, false⟩,
    letterTable 1 "house" ⟨"number", ⟨"INTEGER", TypeCode.integer, false, none, none⟩, false, false⟩]

/-- The key from letters to houses. -/
def letterKey : KeySpec := ⟨"to", ⟨"main", "letter"⟩, ⟨"main", "house"⟩, [⟨1, "house", "number"⟩]⟩

/-- What extracts letters and houses. -/
def letterExtractor (texts : List String) : Extractor where
  schema := ({ Schema.empty "main" with tables := letterTables }.attach [letterKey]).state.schema
  source := letterSource texts
  strategies := ⟨.verbatim, TargetType.ofColumn, .literal⟩
  fetchSize := 100

theorem result_build_letterSource (texts : List String) :
    (Schema.build (letterSource texts) [] "main").result = .ok (letterExtractor texts).schema := by
  have hkeys : KeySpec.aggregate (.table "main" "letter")
      [⟨"to", 1, "house", "main", "house", "number", 1⟩] = [letterKey] := by
    simp [KeySpec.aggregate, KeySpec.addRow, KeySpec.nameOf, KeySpec.pairOf, KeySpec.ordered,
      letterKey, TableInfo.table]
  have htable : ∀ id name column,
      (Schema.loadColumns (letterSource texts) (.table "main" name)).result = .ok [column] →
        (Schema.loadTable (letterSource texts) (.table "main" name, id)).result =
          .ok (letterTable id name column) := by
    intro id name column hcolumn
    refine Schema.result_loadTable_eq_ok_iff.2 ⟨_, [], hcolumn, ?_, rfl⟩
    exact Schema.result_loadPrimaryKey_eq_ok_iff.2 ⟨[], rfl, by rw [List.mergeSort_nil]; rfl⟩
  refine Schema.result_build_eq_ok_iff.2
    ⟨_, letterTables, (letterExtractor texts).schema, ∅, rfl, by decide, ?_, ?_, rfl, rfl⟩
  · exact Report.result_mapList_eq_ok_iff.2
      (.cons (htable 0 _ _ rfl) (.cons (htable 1 _ _ rfl) .nil))
  · refine Report.result_andThen_eq_ok_iff.2 ⟨(letterExtractor texts).schema, ?_, rfl⟩
    refine Schema.result_loadKeys_eq_ok_iff.2
      ⟨[⟨"to", 1, "house", "main", "house", "number", 1⟩], rfl, ?_, ?_⟩
    · rw [hkeys]
      decide
    · rw [hkeys]
      rfl

/-- A numeral of the digit 7 behind some zeros. -/
def sevenAfter (zeros : ℕ) : Numeral where
  sign := .unsigned
  digits := List.replicate zeros '0' ++ ['7']
  digits_ne_nil := by simp
  isDigit := by simp +contextual [or_imp]

theorem failure_resolve_letters (texts : List String) :
    (((letterExtractor texts).extract [0, 1]).state.entities.resolve (letterExtractor texts).schema
      .warn).failure = none :=
  EntitySet.failure_resolve_eq_none_iff.2 nofun

theorem numbers_match_as_spelled_sample :
    Rendering.literal (.text "\u20037 ") "INTEGER" .integer "i32" =
      Rendering.literal (.integer 7) "INTEGER" .integer "i32" ∧
    ∃ e, (((letterExtractor ["\u20037 "]).extract [0, 1]).state.entities.resolve
        (letterExtractor ["\u20037 "]).schema .warn).state.entities.get? 0 = some e ∧
      e.LinkedBy 0 (.resolved 1) := by
  have hwhole : Literal.WholeColumn .integer "i32" := ⟨by decide, by decide, .inl rfl⟩
  have hseven : Text.trimChars "\u20037 ".toList = (sevenAfter 0).written := by decide +kernel
  obtain ⟨htokens, hlinks⟩ := numbers_match_as_spelled "INTEGER" hwhole
  refine ⟨(htokens _ _ hseven).2.2 ⟨by decide, by decide⟩, ?_⟩
  have hnames : (letterExtractor ["\u20037 "]).NamesApart [0, 1] := by
    have hknown : ∀ o ∈ (letterExtractor ["\u20037 "]).origins [0, 1], o.columns.unknown = [] := by
      decide
    refine ⟨by decide, ?_⟩
    intro o ho position hposition
    rw [hknown o ho] at hposition
    cases hposition
  obtain ⟨o, ho⟩ : ∃ o, ((letterExtractor ["\u20037 "]).origins [0, 1])[0]? = some o := ⟨_, rfl⟩
  obtain ⟨e, he, hkeys⟩ := hlinks (letterExtractor ["\u20037 "]) _ [] "main" [0, 1] .warn rfl
    (result_build_letterSource _) hnames (by decide +kernel) (failure_resolve_letters _) 0 o ho
  obtain rfl := Option.some.inj ho
  have htext : Literal.Writes (.text "\u20037 ") (sevenAfter 0) := .text hseven
  have hinteger : Literal.Writes (.integer 7) (sevenAfter 0) := .integer 7
  have hkey := hkeys _ (List.mem_of_getElem? (i := 0) rfl)
  refine ⟨e, he, (hkey ⟨?_, ?_⟩ 1).2 ⟨⟨_, rfl, rfl, ?_⟩, ?_⟩⟩
  · intro u hu p hp c hc
    obtain rfl := Option.some.inj hu
    obtain rfl := List.mem_singleton.1 hp
    obtain rfl := Option.some.inj hc
    exact hwhole
  · intro p hp v hv _
    obtain rfl := List.mem_singleton.1 hp
    obtain rfl := Option.some.inj hv
    exact ⟨_, htext⟩
  · intro p hp
    obtain rfl := List.mem_singleton.1 hp
    exact ⟨_, _, rfl, rfl, _, htext, hinteger⟩
  -- row zero is the letter itself, which is of another table
  · intro j hj ⟨o', ho', hshares⟩
    obtain rfl : j = 0 := Nat.lt_one_iff.1 hj
    obtain rfl := Option.some.inj ho'
    exact absurd hshares.table_eq (by decide)

/-- The number 7 behind two zeros has another token than the integer, so it does not find the house that
stores the integer. -/
theorem exists_number_without_match :
    ∃ (s : String) (n : Numeral), Text.trimChars s.toList = n.written ∧ n.value = 7 ∧
      Rendering.literal (.text s) "INTEGER" .integer "i32" ≠
        Rendering.literal (.integer 7) "INTEGER" .integer "i32" ∧
      ((letterExtractor [s]).origins [0, 1]).map (·.cell? 0) = [some (.text s), some (.integer 7)] ∧
      ∃ e l q, (((letterExtractor [s]).extract [0, 1]).state.entities.resolve
          (letterExtractor [s]).schema .warn).state.entities.get? 0 = some e ∧
        e.required = [l] ∧ l.target = .unresolved q := by
  refine ⟨"007", sevenAfter 2, by decide +kernel, by decide +kernel, by decide +kernel,
    by decide +kernel, ?_⟩
  rw [EntitySet.entities_resolve (failure_resolve_letters _)]
  exact ⟨_, _, _, rfl, rfl, rfl⟩

end Extractor

end FixturePlan
