import FixturePlan.Proofs.Number.Numeral
import FixturePlan.Proofs.Strategy.Literal

/-!
# Literals of whole numbers

In a column of whole numbers the literal of a cell is a numeral exactly if the cell writes it: an integer
and a whole float write the plain numeral of their number, and a text writes the numeral that it holds, as
it is spelled there (`Literal.ofCell_eq_iff_writes`). So a text and the integer that it denotes have one
literal only if the text spells the number plainly (`Literal.sameNumeral_text_integer_iff`).
-/

namespace FixturePlan.Literal

open Number

/-- The columns of whole numbers: their type holds no truth values, and their target type is one of the
two whole ones. -/
structure WholeColumn (code : TypeCode) (target : String) : Prop where
  not_boolean : code ≠ .boolean
  not_bit : code ≠ .bit
  target_eq : target = "i32" ∨ target = "i64"

/-- What a cell writes as a whole number. Blanks around the numeral of a text do not count. -/
inductive Writes : Cell → Numeral → Prop where
  | integer (i : ℤ) : Writes (.integer i) (.ofInt i)
  | real {x : Float} {i : ℤ} (h : (Binary64.ofFloat x).toInt? = some i) :
      Writes (.real x) (.ofInt (clampInt64 i))
  | text {s : String} {n : Numeral} (h : Text.trimChars s.toList = n.written) : Writes (.text s) n

theorem Writes.isNull_eq {v : Cell} {n : Numeral} (h : Writes v n) : v.isNull = false := by
  cases h <;> rfl

theorem writes_integer_iff {i : ℤ} {n : Numeral} : Writes (.integer i) n ↔ .ofInt i = n :=
  ⟨fun h => by cases h; rfl, fun h => h ▸ .integer i⟩

theorem writes_real_iff {x : Float} {n : Numeral} :
    Writes (.real x) n ↔ ∃ i, (Binary64.ofFloat x).toInt? = some i ∧ .ofInt (clampInt64 i) = n :=
  ⟨fun | .real h => ⟨_, h, rfl⟩, fun ⟨_, h, hn⟩ => hn ▸ .real h⟩

theorem writes_text_iff {s : String} {n : Numeral} :
    Writes (.text s) n ↔ Text.trimChars s.toList = n.written :=
  ⟨fun | .text h => h, .text⟩

/-- Two cells write the same numeral. -/
def SameNumeral (v w : Cell) : Prop := ∃ n, Writes v n ∧ Writes w n

variable {code : TypeCode} {target : String} {n : Numeral}

namespace WholeColumn

theorem isTruth_eq (h : WholeColumn code target) : code.isTruth = false := by
  rw [TypeCode.isTruth, Bool.or_eq_false_iff]
  exact ⟨beq_false_of_ne h.not_boolean, beq_false_of_ne h.not_bit⟩

theorem isNumeric_eq (h : WholeColumn code target) : TargetType.isNumeric target = true := by
  obtain rfl | rfl := h.target_eq <;> decide

theorem isWhole_eq (h : WholeColumn code target) : TargetType.isWhole target = true := by
  obtain rfl | rfl := h.target_eq <;> decide

end WholeColumn

/-! ### What is no numeral

Truth values, bytes and floats with a fraction have some character that no numeral has. -/

/-- The characters of numerals. -/
def isNumeralChar (c : Char) : Bool := c.isDigit || c == '+' || c == '-'

theorem isNumeralChar_of_mem_written {c : Char} (hc : c ∈ n.written) : isNumeralChar c = true := by
  have hsign : ∀ sign : Sign, ∀ c ∈ sign.written, isNumeralChar c = true := by
    intro sign
    cases sign with
    | unsigned => nofun
    | plus => exact List.forall_mem_singleton.2 rfl
    | minus => exact List.forall_mem_singleton.2 rfl
  rcases List.mem_append.1 hc with hc | hc
  · exact hsign n.sign c hc
  · rw [isNumeralChar, n.isDigit c hc]
    rfl

theorem ne_written {t : String} {c : Char} (hc : c ∈ t.toList) (hno : isNumeralChar c = false) :
    t ≠ String.ofList n.written := by
  rintro rfl
  rw [String.toList_ofList] at hc
  rw [isNumeralChar_of_mem_written hc] at hno
  cases hno

/-- A decimal in the notation of literals has a point or an exponent. -/
theorem exists_mem_decimal (d : Decimal) :
    ∃ c ∈ FloatNotation.literal.decimal d, isNumeralChar c = false := by
  have hplaces : ∀ digits point, '.' ∈ FloatNotation.literal.places digits point := by
    intro digits point
    rw [FloatNotation.places]
    split
    · simp
    · split <;> simp [FloatNotation.literal]
  have hscientific : ∀ digits point, 'e' ∈ FloatNotation.literal.scientific digits point := by
    simp [FloatNotation.scientific]
  rw [FloatNotation.decimal]
  simp only [FloatNotation.literal]
  split
  · exact ⟨'.', hplaces _ _, by decide⟩
  · exact ⟨'e', hscientific _ _, by decide⟩

/-- A float in the notation of literals has a point, an exponent or letters. -/
theorem exists_mem_literal (b : Binary64) :
    ∃ c ∈ FloatNotation.literal.chars b, isNumeralChar c = false := by
  cases b with
  | nan => exact ⟨'N', by decide, by decide⟩
  | infinite negative => exact ⟨'i', by cases negative <;> decide, by decide⟩
  | finite negative significand exponent =>
    rw [FloatNotation.chars]
    cases significand == 0 with
    | true =>
      have hpoint : '.' ∈ ['0', '.', '0'] := by decide
      exact ⟨'.', List.mem_append_right _ hpoint, by decide⟩
    | false =>
      obtain ⟨c, hc, hno⟩ := exists_mem_decimal
        (shortest FloatNotation.literal.tie significand exponent)
      exact ⟨c, List.mem_append_right _ hc, hno⟩

/-! ### What is a numeral

What is left are integers, texts that are trimmed to a numeral, and whole floats. -/

/-- The literal of a text is a numeral exactly if the text holds it. -/
theorem text_eq_iff (h : WholeColumn code target) (s : String) :
    text s target = String.ofList n.written ↔ Text.trimChars s.toList = n.written := by
  rw [text, h.isNumeric_eq, Bool.true_and]
  constructor
  · intro heq
    split at heq
    · exact String.ofList_injective heq
    · exact absurd heq (ne_written (c := '"') (by simp [Text.quoted, Text.quoteChars]) (by decide))
  · intro htrim
    rw [htrim, n.denotesFloat_written]
    rfl

/-- The literal of a float is a numeral exactly if the float is whole, and the numeral is then the plain
one of its number. -/
theorem real_eq_iff (h : WholeColumn code target) (x : Float) :
    real x target = String.ofList n.written ↔
      ∃ i, (Binary64.ofFloat x).toInt? = some i ∧ Numeral.ofInt (clampInt64 i) = n := by
  rw [real, h.isWhole_eq]
  cases hi : (Binary64.ofFloat x).toInt? with
  | none =>
    refine ⟨fun heq => ?_, nofun⟩
    obtain ⟨c, hc, hno⟩ := exists_mem_literal (Binary64.ofFloat x)
    exact absurd heq (ne_written (by rwa [FloatNotation.write, String.toList_ofList]) hno)
  | some i =>
    show (clampInt64 i).repr = String.ofList n.written ↔ _
    rw [← String.toList_inj, String.toList_ofList, ← Numeral.written_ofInt, Numeral.written_inj]
    simp

/-- In a column of whole numbers the literal of a cell is a numeral exactly if the cell writes it. -/
theorem ofCell_eq_iff_writes (h : WholeColumn code target) (v : Cell) :
    ofCell v code target = String.ofList n.written ↔ Writes v n := by
  -- the words of the other kinds hold a letter, and no number does
  cases v with
  | null =>
    refine ⟨fun heq => absurd heq (ne_written (c := 'N') ?_ (by decide)), nofun⟩
    show 'N' ∈ "None".toList
    decide
  | boolean b =>
    refine ⟨fun heq => absurd heq (ne_written (c := 'e') ?_ (by decide)), nofun⟩
    show 'e' ∈ (truth b).toList
    cases b <;> decide
  | blob bs =>
    refine ⟨fun heq => absurd heq (ne_written (c := 'v') ?_ (by decide)), nofun⟩
    show 'v' ∈ (bytes bs).toList
    rw [toList_bytes]
    exact List.mem_append_left _ (List.mem_append_left _ (by decide))
  | integer i =>
    rw [ofCell, h.isTruth_eq]
    show i.repr = String.ofList n.written ↔ _
    rw [← String.toList_inj, String.toList_ofList, ← Numeral.written_ofInt, Numeral.written_inj,
      writes_integer_iff]
  | real x => rw [writes_real_iff, ← real_eq_iff h x, ofCell]
  | text s => rw [writes_text_iff, ← text_eq_iff h s, ofCell]

/-- A cell that writes a numeral has the literal of another cell exactly if the other writes it too. -/
theorem ofCell_eq_iff_sameNumeral (h : WholeColumn code target) {v w : Cell} (hv : ∃ n, Writes v n) :
    ofCell v code target = ofCell w code target ↔ SameNumeral v w := by
  constructor
  · intro heq
    obtain ⟨n, hn⟩ := hv
    exact ⟨n, hn, (ofCell_eq_iff_writes h w).1 (heq ▸ (ofCell_eq_iff_writes h v).2 hn)⟩
  · rintro ⟨n, hn, hn'⟩
    rw [(ofCell_eq_iff_writes h v).2 hn, (ofCell_eq_iff_writes h w).2 hn']

/-- A text and the integer that it denotes write one numeral exactly if the numeral in the text is
plain. -/
theorem sameNumeral_text_integer_iff {s : String} (hs : Text.trimChars s.toList = n.written) :
    SameNumeral (.text s) (.integer n.value) ↔ n.Plain := by
  rw [Numeral.plain_iff, ← Numeral.written_ofInt, ← hs]
  constructor
  · rintro ⟨n', htext, hinteger⟩
    obtain rfl := writes_integer_iff.1 hinteger
    exact writes_text_iff.1 htext
  · intro hplain
    exact ⟨_, writes_text_iff.2 hplain, .integer n.value⟩

end FixturePlan.Literal
