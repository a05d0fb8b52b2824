import FixturePlan.Proofs.Text.Quoted
import FixturePlan.Strategy.Literal
import Std.Data.String.ToInt

/-!
# Literals tell cells apart

Except for floats, the first character of a literal tells the kind of its cell
(`Literal.told_ofCell`), and the rest tells the cell, where numbers are not taken for truth values and
texts not for numbers (`Literal.ofCell_inj`).
-/

namespace FixturePlan.Literal

/-- The columns whose literals tell cells apart: their type holds no truth values, and their target type
is not a number. -/
structure TellsApart (code : TypeCode) (target : String) : Prop where
  not_boolean : code ≠ .boolean
  not_bit : code ≠ .bit
  not_numeric : TargetType.isNumeric target = false

/-- The kinds of cells, floats apart. -/
inductive Kind where
  | absent
  | truth
  | number
  | text
  | bytes
  deriving DecidableEq

namespace Kind

/-- The kind of a cell. -/
def of? : Cell → Option Kind
  | .null => some .absent
  | .boolean _ => some .truth
  | .integer _ => some .number
  | .text _ => some .text
  | .blob _ => some .bytes
  | .real _ => none

/-- The kind that the first character of a literal tells. -/
def told (c : Char) : Kind :=
  if c = 'N' then .absent
  else if c = 't' ∨ c = 'f' then .truth
  else if c = '"' then .text
  else if c = 'v' then .bytes
  else .number

end Kind

variable {code code' : TypeCode} {target target' : String}

namespace TellsApart

theorem isTruth_eq (h : TellsApart code target) : code.isTruth = false := by
  rw [TypeCode.isTruth, Bool.or_eq_false_iff]
  exact ⟨beq_false_of_ne h.not_boolean, beq_false_of_ne h.not_bit⟩

theorem text_eq (h : TellsApart code target) (s : String) : text s target = Text.quoted s := by
  rw [text, h.not_numeric, Bool.false_and]
  rfl

theorem integer_eq (h : TellsApart code target) (n : ℤ) :
    ofCell (.integer n) code target = n.repr := by
  rw [ofCell, h.isTruth_eq]
  rfl

end TellsApart

/-! ### Bytes

Bytes are written as numbers between brackets, which tell where each ends. -/

/-- The characters of a list of bytes. -/
theorem toList_bytes (bs : List UInt8) : (bytes bs).toList =
    "vec![".toList ++ [',', ' '].intercalate (bs.map fun b => Nat.toDigits 10 b.toNat) ++ [']'] := by
  rw [bytes, String.toList_append, String.toList_append, String.toList_intercalate, List.map_map]
  congr 3
  exact List.map_congr_left fun b _ => Nat.toList_repr

/-- Lists of bytes are told apart. -/
theorem bytes_inj {bs cs : List UInt8} (h : bytes bs = bytes cs) : bs = cs := by
  have hpieces : ∀ bs : List UInt8, ∀ piece ∈ bs.map (fun b => Nat.toDigits 10 b.toNat),
      piece ≠ [] ∧ ',' ∉ piece := by
    intro bs piece hpiece
    obtain ⟨b, -, rfl⟩ := List.mem_map.1 hpiece
    refine ⟨Nat.toDigits_ne_nil, fun hcomma => ?_⟩
    exact Text.forall_mem_toDigits (by decide) (P := (· ≠ ',')) (by decide) b.toNat ',' hcomma rfl
  have hchars := congrArg String.toList h
  rw [toList_bytes, toList_bytes, List.append_assoc, List.append_assoc] at hchars
  have hjoined := List.append_cancel_right (List.append_cancel_left hchars)
  refine (List.map_inj_right fun b c hbc => ?_).1
    (Text.intercalate_inj (hpieces bs) (hpieces cs) hjoined)
  exact UInt8.toNat_inj.1 ((Text.toDigits_inj (by decide) (by decide)).1 hbc)

/-! ### Cells

Cells of one kind are told apart by their own notation, and cells of different kinds by the first
character. -/

/-- The first character of a whole number is a digit or a minus. -/
theorem told_repr (n : ℤ) : n.repr.toList.head?.map Kind.told = some .number := by
  cases n with
  | ofNat m =>
    have hdigits : ∀ c ∈ Nat.toDigits 10 m, Kind.told c = .number :=
      Text.forall_mem_toDigits (by decide) (by decide) m
    show m.repr.toList.head?.map Kind.told = _
    rw [Nat.toList_repr]
    cases hchars : Nat.toDigits 10 m with
    | nil => exact absurd hchars Nat.toDigits_ne_nil
    | cons c rest => exact congrArg some (hdigits c (hchars ▸ List.mem_cons_self))
  | negSucc m =>
    show ("-" ++ m.succ.repr).toList.head?.map Kind.told = _
    rw [String.toList_append]
    rfl

/-- The first character of a literal tells the kind of its cell. -/
theorem told_ofCell (h : TellsApart code target) {v : Cell} (hv : ∀ x, v ≠ .real x) :
    (ofCell v code target).toList.head?.map Kind.told = Kind.of? v := by
  cases v with
  | null =>
    show "None".toList.head?.map Kind.told = _
    rfl
  | boolean b =>
    show (truth b).toList.head?.map Kind.told = _
    cases b <;> rfl
  | integer n =>
    rw [h.integer_eq, told_repr]
    rfl
  | real x => exact absurd rfl (hv x)
  | text s =>
    show (text s target).toList.head?.map Kind.told = _
    rw [h.text_eq, Text.quoted, String.toList_ofList]
    rfl
  | blob bs =>
    show (bytes bs).toList.head?.map Kind.told = _
    rw [toList_bytes]
    rfl

/-- Literals of different cells differ, floats apart, also of cells of different columns. -/
theorem ofCell_inj (h : TellsApart code target) (h' : TellsApart code' target') {v w : Cell}
    (hv : ∀ x, v ≠ .real x) (hw : ∀ x, w ≠ .real x) :
    ofCell v code target = ofCell w code' target' ↔ v = w := by
  constructor
  · intro heq
    -- the first character tells the kinds apart, so that only equal kinds are left to compare
    have hkind : Kind.of? v = Kind.of? w := by rw [← told_ofCell h hv, heq, told_ofCell h' hw]
    cases v with
    | null =>
      cases w with
      | null => rfl
      | _ => cases hkind
    | boolean b =>
      cases w with
      | boolean c =>
        have htruth : ∀ b c, truth b = truth c → b = c := by decide
        rw [htruth b c heq]
      | _ => cases hkind
    | integer m =>
      cases w with
      | integer n =>
        rw [h.integer_eq, h'.integer_eq, Int.repr_inj] at heq
        rw [heq]
      | _ => cases hkind
    | real x => exact absurd rfl (hv x)
    | text s =>
      cases w with
      | text t =>
        change text s target = text t target' at heq
        rw [h.text_eq, h'.text_eq, Text.quoted_inj] at heq
        rw [heq]
      | _ => cases hkind
    | blob bs =>
      cases w with
      | blob cs => rw [bytes_inj heq]
      | _ => cases hkind
  · rintro rfl
    cases v with
    | integer n => rw [h.integer_eq, h'.integer_eq]
    | text s => exact (h.text_eq s).trans (h'.text_eq s).symm
    | real x => exact absurd rfl (hv x)
    | _ => rfl

/-- A text that denotes a number counts as one where the target type is a number. -/
example : ofCell (.text " 7") .integer "i32" = ofCell (.integer 7) .integer "i32" := by
  decide +kernel

end FixturePlan.Literal
