import FixturePlan.Database.Scan
import FixturePlan.Proofs.Text.Casing

/-!
# Row numbers

A query takes a column that bears the name of the row numbers for them. It still finds the numbers if there
is no such column, and also if the column is the key that holds them (`StoredTable.Numbered`). The key is
then declared as `INTEGER`, in some case and between some blanks, so that it compares as whole numbers do
(`DeclaredType.affinity_of_reported`).
-/

namespace FixturePlan

namespace Affinity

theorem mentions_append {word : String} {cs : List Char} (h : mentions cs word = true)
    (before : List Char) : mentions (before ++ cs) word = true := by
  induction before with
  | nil => exact h
  | cons c before ih =>
    show (_ || mentions (before ++ cs) word) = true
    rw [ih, Bool.or_true]

end Affinity

namespace DeclaredType

/-! ### Declared types

The database reports the standard names without the blanks around them and in capitals. -/

theorem exists_eq_append_trimChars (cs : List Char) :
    ∃ before behind, cs = before ++ Text.trimChars cs ++ behind := by
  have hleft : cs = cs.takeWhile Text.isBlank ++ Text.trimLeft cs :=
    List.takeWhile_append_dropWhile.symm
  have hright : (Text.trimLeft cs).reverse =
      (Text.trimLeft cs).reverse.takeWhile Text.isBlank ++ Text.trimLeft (Text.trimLeft cs).reverse :=
    List.takeWhile_append_dropWhile.symm
  have hkept : Text.trimLeft cs = Text.trimChars cs ++
      ((Text.trimLeft cs).reverse.takeWhile Text.isBlank).reverse := by
    have hreverse := congrArg List.reverse hright
    rwa [List.reverse_reverse, List.reverse_append] at hreverse
  refine ⟨cs.takeWhile Text.isBlank, ((Text.trimLeft cs).reverse.takeWhile Text.isBlank).reverse, ?_⟩
  rw [List.append_assoc, ← hkept]
  exact hleft

theorem asciiUppercase_asciiLowercase (s : String) :
    Text.asciiUppercase (Text.asciiLowercase s) = Text.asciiUppercase s := by
  have hchar : ∀ c : Char, c.toLower.toUpper = c.toUpper := by
    intro c
    induction c using Text.forall_char with
    | hascii n hn => revert n; decide +kernel
    | hfixed c _ hlower => rw [hlower]
  simp [Text.asciiUppercase, Text.asciiLowercase, String.map_map, Function.comp_def, hchar]

theorem asciiLowercase_asciiUppercase (s : String) :
    Text.asciiLowercase (Text.asciiUppercase s) = Text.asciiLowercase s := by
  have hchar : Char.toLower ∘ Char.toUpper = Char.toLower := funext Text.toLower_toUpper
  simp only [Text.asciiUppercase, Text.asciiLowercase, String.map_map, hchar]

/-- Case and blanks aside, the report is the declaration. -/
theorem asciiLowercase_reported (declared : String) :
    Text.asciiLowercase (reported declared) = Text.asciiLowercase (Text.trim declared) := by
  unfold reported
  dsimp only
  split
  · exact asciiLowercase_asciiUppercase _
  · rfl

/-- A column that is reported as `INTEGER` prefers whole numbers. -/
theorem affinity_of_reported {declared : String} (h : sameName (reported declared) "INTEGER") :
    affinity declared = .integer := by
  have hcapitals : Text.asciiUppercase (Text.trim declared) = "INTEGER" := by
    have hlower : Text.asciiLowercase (Text.trim declared) = Text.asciiLowercase "INTEGER" := by
      rw [← asciiLowercase_reported]
      exact beq_iff_eq.1 h
    rw [← asciiUppercase_asciiLowercase, hlower, asciiUppercase_asciiLowercase]
    decide +kernel
  have hword : (Text.trimChars declared.toList).map Char.toUpper = "INTEGER".toList := by
    rw [← hcapitals, Text.asciiUppercase, Text.trim, String.toList_map, String.toList_ofList]
  obtain ⟨before, behind, hsplit⟩ := exists_eq_append_trimChars declared.toList
  have hint : Affinity.mentions (Text.asciiUppercase declared).toList "INT" = true := by
    rw [Text.asciiUppercase, String.toList_map, hsplit, List.map_append, List.map_append, hword,
      List.append_assoc]
    exact Affinity.mentions_append rfl _
  rw [affinity, Affinity.ofCapitals]
  exact if_pos hint

end DeclaredType

namespace StoredTable

/-! ### Numbered tables

Where a column bears the name of the row numbers, what a query calls the row number is that column. In a
numbered table this is the number all the same. -/

/-- A table whose rows have numbers of their own, in 64 bits. If a column bears the name of the row
numbers, it is the key that holds them. -/
structure Numbered (t : StoredTable) : Prop where
  denotes : ∀ position, shadowColumn? t.declaration = some position →
    t.declaration.rowidColumn? = some position
  keeps : ∀ r ∈ t.rows, ∀ position, t.declaration.rowidColumn? = some position →
    r.cells[position]? = some (.integer r.rowid)
  nodup : (t.rows.map (·.rowid)).Nodup
  inInt64 : ∀ r ∈ t.rows, Number.leastInt64 ≤ r.rowid ∧ r.rowid ≤ Number.greatestInt64

namespace Numbered

variable {t : StoredTable} {r : StoredRow}

theorem rowidCell_eq (ht : t.Numbered) (hr : r ∈ t.rows) : t.rowidCell r = .integer r.rowid := by
  rw [rowidCell]
  cases hshadow : shadowColumn? t.declaration with
  | none => rfl
  | some position =>
    show (r.cells[position]?).getD .null = _
    rw [ht.keeps r hr position (ht.denotes position hshadow)]
    rfl

theorem rowidAffinity_eq (ht : t.Numbered) : rowidAffinity t.declaration = .integer := by
  have hkey : ∀ position, t.declaration.rowidColumn? = some position →
      ∃ c, t.declaration.columns[position]? = some c ∧ DeclaredType.affinity c.type = .integer := by
    intro position h
    rw [TableDef.rowidColumn?, TableDef.integerKey?] at h
    split at h
    · cases h
    · split at h
      · have htype := (Option.filter_eq_some_iff.1 h).2
        rw [Option.any_eq_true] at htype
        obtain ⟨c, hc, hsame⟩ := htype
        exact ⟨c, hc, DeclaredType.affinity_of_reported hsame⟩
      · cases h
  rw [rowidAffinity]
  cases hshadow : shadowColumn? t.declaration with
  | none => rfl
  | some position =>
    obtain ⟨c, hc, htype⟩ := hkey position (ht.denotes position hshadow)
    have hnamed : (some position >>= (t.declaration.columns[·]?)) = some c := hc
    rw [hnamed]
    exact htype

end Numbered

end StoredTable

end FixturePlan
