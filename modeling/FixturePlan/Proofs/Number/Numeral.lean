import FixturePlan.Number.Reading
import Mathlib.Data.List.TakeWhile

/-!
# Decimal numerals

A whole number has many spellings: with a plus, with leading zeros, and zero also with a minus. One of
them is plain, and it is the one that numbers are printed in (`Numeral.plain_iff`). Whatever reads floats
reads every numeral (`Numeral.denotesFloat_written`).
-/

namespace FixturePlan.Number

/-- The sign in front of a numeral. -/
inductive Sign where
  | unsigned
  | plus
  | minus
  deriving DecidableEq

namespace Sign

/-- How a sign is written. -/
def written : Sign → List Char
  | unsigned => []
  | plus => ['+']
  | minus => ['-']

theorem written_inj {a b : Sign} : a.written = b.written ↔ a = b := by
  cases a <;> cases b <;> decide

/-- The number of a sign and a magnitude. -/
def apply : Sign → ℕ → ℤ
  | minus, m => -m
  | _, m => m

end Sign

/-- A decimal numeral: a sign or none, and at least one digit. -/
structure Numeral where
  sign : Sign
  digits : List Char
  digits_ne_nil : digits ≠ []
  isDigit : ∀ c ∈ digits, c.isDigit = true

namespace Numeral

/-- How a numeral is written. -/
def written (n : Numeral) : List Char := n.sign.written ++ n.digits

/-- The number that a numeral denotes. -/
def value (n : Numeral) : ℤ := n.sign.apply (Nat.ofDigitChars 10 n.digits 0)

/-- A plain numeral has no plus, no zero in front of further digits and no minus in front of zero. -/
structure Plain (n : Numeral) : Prop where
  sign_ne_plus : n.sign ≠ .plus
  zero_alone : n.digits.head? = some '0' → n.digits = ['0'] ∧ n.sign = .unsigned

/-- The decimal digits of a magnitude behind a sign. -/
def ofNat (sign : Sign) (m : ℕ) : Numeral where
  sign
  digits := Nat.toDigits 10 m
  digits_ne_nil := Nat.toDigits_ne_nil
  isDigit _ := Nat.isDigit_of_mem_toDigits (by decide) (by decide)

/-- The numeral in which a number is printed. -/
def ofInt : ℤ → Numeral
  | .ofNat m => ofNat .unsigned m
  | .negSucc m => ofNat .minus (m + 1)

theorem written_ofInt (i : ℤ) : (ofInt i).written = i.repr.toList := by
  cases i with
  | ofNat m => exact Nat.toList_repr.symm
  | negSucc m =>
    show '-' :: Nat.toDigits 10 (m + 1) = ("-" ++ (m + 1).repr).toList
    rw [String.toList_append, Nat.toList_repr]
    rfl

/-! ### Telling numerals apart

The first character tells whether there is a sign, and which. -/

/-- The digits are what is left of a numeral behind the sign. -/
theorem splitSign_written (n : Numeral) :
    splitSign n.written = (n.sign == .minus, n.digits) := by
  obtain ⟨sign, digits, hne, hdigits⟩ := n
  cases sign with
  | plus => rfl
  | minus => rfl
  | unsigned =>
    obtain ⟨c, rest, rfl⟩ := List.exists_cons_of_ne_nil hne
    have hc := hdigits c List.mem_cons_self
    show splitSign (c :: rest) = (false, c :: rest)
    unfold splitSign
    split
    · next heq =>
      cases heq
      exact absurd hc (by decide)
    · next heq =>
      cases heq
      exact absurd hc (by decide)
    · rfl

/-- Different numerals are written differently. -/
theorem written_inj {n n' : Numeral} : n.written = n'.written ↔ n = n' := by
  refine ⟨fun h => ?_, congrArg written⟩
  have hdigits : n.digits = n'.digits := by
    have hsplit := congrArg splitSign h
    rw [splitSign_written, splitSign_written] at hsplit
    exact (Prod.mk.inj hsplit).2
  have hsign : n.sign.written = n'.sign.written := by
    rw [written, written, hdigits] at h
    exact List.append_cancel_right h
  have hsame : n.sign = n'.sign := Sign.written_inj.1 hsign
  cases n
  cases n'
  cases hsame
  cases hdigits
  rfl

/-! ### Plain numerals

A numeral is plain if it is written as its value is printed: without a plus, without a zero in front of
other digits, and zero without a minus. -/

theorem digitChar_of_isDigit {c : Char} (hc : c.isDigit = true) :
    c.toNat - '0'.toNat < 10 ∧ Nat.digitChar (c.toNat - '0'.toNat) = c := by
  obtain ⟨hlow, hhigh⟩ := Char.isDigit_iff_toNat.1 hc
  have hlt : c.toNat - '0'.toNat < 10 := Nat.sub_lt_left_of_lt_add hlow (Nat.lt_succ_of_le hhigh)
  refine ⟨hlt, Char.toNat_inj.1 ?_⟩
  rw [Nat.toNat_digitChar_of_lt_ten hlt]
  exact Nat.add_sub_of_le hlow

/-- Digits behind a positive number prolong its own. -/
theorem toDigits_ofDigitChars {cs : List Char} (hcs : ∀ c ∈ cs, c.isDigit = true) {m : ℕ}
    (hm : 0 < m) : Nat.toDigits 10 (Nat.ofDigitChars 10 cs m) = Nat.toDigits 10 m ++ cs := by
  induction cs generalizing m with
  | nil => rw [Nat.ofDigitChars_nil, List.append_nil]
  | cons c cs ih =>
    obtain ⟨hc, hrest⟩ := List.forall_mem_cons.1 hcs
    obtain ⟨hlt, hchar⟩ := digitChar_of_isDigit hc
    rw [Nat.ofDigitChars_cons, ih hrest (by omega),
      ← Nat.toDigits_append_toDigits (by decide) hm hlt, Nat.toDigits_of_lt_base hlt, hchar,
      List.append_assoc]
    rfl

/-- Digits without a zero in front are those of their number. -/
theorem toDigits_of_head?_ne {cs : List Char} (hcs : ∀ c ∈ cs, c.isDigit = true) (hne : cs ≠ [])
    (hzero : cs.head? ≠ some '0') :
    0 < Nat.ofDigitChars 10 cs 0 ∧ Nat.toDigits 10 (Nat.ofDigitChars 10 cs 0) = cs := by
  obtain ⟨c, rest, rfl⟩ := List.exists_cons_of_ne_nil hne
  obtain ⟨hc, hrest⟩ := List.forall_mem_cons.1 hcs
  obtain ⟨hlt, hchar⟩ := digitChar_of_isDigit hc
  have hpos : 0 < c.toNat - '0'.toNat := by
    refine Nat.pos_of_ne_zero fun hc0 => hzero ?_
    rw [List.head?_cons, ← hchar, hc0]
    rfl
  have hdigits : Nat.toDigits 10 (Nat.ofDigitChars 10 (c :: rest) 0) = c :: rest := by
    rw [Nat.ofDigitChars_cons, Nat.mul_zero, Nat.zero_add, toDigits_ofDigitChars hrest hpos,
      Nat.toDigits_of_lt_base hlt, hchar, List.singleton_append]
  refine ⟨Nat.pos_of_ne_zero fun h0 => hzero ?_, hdigits⟩
  rw [← hdigits, h0]
  rfl

/-- The digits of a positive number do not begin with a zero. -/
theorem head?_toDigits_ne {m : ℕ} (hm : 0 < m) : (Nat.toDigits 10 m).head? ≠ some '0' := by
  induction m using Nat.strongRecOn with
  | ind m ih =>
    rw [Nat.toDigits_eq_if (by decide)]
    split
    · next hlt =>
      rw [List.head?_cons, ne_eq, Option.some.injEq, Nat.digitChar_eq_zero]
      exact hm.ne'
    · next hge =>
      rw [List.head?_append, Option.or_of_isSome (List.isSome_head?.2 Nat.toDigits_ne_nil)]
      exact ih (m / 10) (by omega) (by omega)

theorem plain_ofInt (i : ℤ) : (ofInt i).Plain := by
  cases i with
  | ofNat m =>
    refine ⟨Sign.noConfusion, fun hzero => ?_⟩
    obtain rfl : m = 0 := by
      by_contra hm
      exact head?_toDigits_ne (Nat.pos_of_ne_zero hm) hzero
    exact ⟨rfl, rfl⟩
  | negSucc m =>
    exact ⟨Sign.noConfusion, fun hzero => absurd hzero (head?_toDigits_ne m.succ_pos)⟩

theorem Plain.ofInt_value {n : Numeral} (h : n.Plain) : ofInt n.value = n := by
  obtain ⟨sign, digits, hne, hdigits⟩ := n
  by_cases hzero : digits.head? = some '0'
  · obtain ⟨rfl, rfl⟩ : digits = ['0'] ∧ sign = .unsigned := h.zero_alone hzero
    have hwritten : (ofInt (Sign.unsigned.apply (Nat.ofDigitChars 10 ['0'] 0))).written = ['0'] := by
      decide
    exact written_inj.1 hwritten
  obtain ⟨hpos, hsame⟩ := toDigits_of_head?_ne hdigits hne hzero
  obtain ⟨m, hm⟩ : ∃ m, Nat.ofDigitChars 10 digits 0 = m + 1 := Nat.exists_eq_succ_of_ne_zero hpos.ne'
  rw [hm] at hsame
  rw [← written_inj]
  cases sign with
  | plus => exact absurd rfl h.sign_ne_plus
  | unsigned =>
    show (ofInt (Nat.ofDigitChars 10 digits 0 : ℤ)).written = digits
    rw [hm]
    exact hsame
  | minus =>
    show (ofInt (-(Nat.ofDigitChars 10 digits 0 : ℤ))).written = '-' :: digits
    rw [hm]
    exact congrArg ('-' :: ·) hsame

/-- The plain numerals are those in which numbers are printed. -/
theorem plain_iff {n : Numeral} : n.Plain ↔ n.written = n.value.repr.toList := by
  rw [← written_ofInt, written_inj]
  exact ⟨fun h => h.ofInt_value.symm, fun h => h ▸ plain_ofInt n.value⟩

/-! ### Reading

The reader of numbers in texts takes every numeral. -/

theorem isSome_readMagnitude_digits (n : Numeral) : (readMagnitude n.digits).isSome = true := by
  have hwhole : splitDigits n.digits = (n.digits, []) := by
    rw [splitDigits, List.takeWhile_eq_self_iff.2 n.isDigit, List.dropWhile_eq_nil_iff.2 n.isDigit]
  have hsome : n.digits.isEmpty = false := by
    rw [List.isEmpty_eq_false_iff]
    exact n.digits_ne_nil
  rw [readMagnitude, hwhole]
  dsimp only
  rw [hsome]
  rfl

/-- Every numeral denotes a float. -/
theorem denotesFloat_written (n : Numeral) : denotesFloat n.written = true := by
  rw [denotesFloat, readFloat?, splitSign_written, Option.isSome_map, readUnsigned]
  split
  · rfl
  · split
    · rfl
    · rw [Option.isSome_map]
      exact isSome_readMagnitude_digits n

end Numeral

end FixturePlan.Number
