import FixturePlan.Text.Casing
import Mathlib.Data.List.TakeWhile

/-!
# Names in one piece

Camel case takes the separators out of a name and changes the case of ASCII letters, and nothing else:
the letters and digits of the name stay as they are but for case (`Text.letters_camelCase`). So names whose
letters and digits differ beyond case are told apart by it, and only a name without any becomes empty
(`Text.camelCase_eq_empty_iff`).
-/

namespace FixturePlan.Text

/-- The letters and digits of a name, ASCII letters without their case. -/
def letters (s : String) : List Char := (s.toList.filter isAlphanumeric).map Char.toLower

/-! ### Characters

A statement on all characters is checked for ASCII, and the others have no case here. -/

/-- What holds of the ASCII characters, and of all characters without another case, holds of every
character. -/
theorem forall_char {P : Char → Prop} (hascii : ∀ n < 128, P (Char.ofNat n))
    (hfixed : ∀ c : Char, c.toUpper = c → c.toLower = c → P c) (c : Char) : P c := by
  by_cases hc : c.toNat < 128
  · exact Char.ofNat_toNat c ▸ hascii c.toNat hc
  · have hbeyond : ∀ d : Char, d.toNat < 128 → ¬c.val ≤ d.val := by
      intro d hd hle
      have hnat : c.toNat ≤ d.toNat := hle
      omega
    exact hfixed c (dif_neg fun h => hbeyond 'z' (by decide) h.2)
      (dif_neg fun h => hbeyond 'Z' (by decide) h.2)

theorem isAlphanumeric_toUpper (c : Char) : isAlphanumeric c.toUpper = isAlphanumeric c := by
  induction c using forall_char with
  | hascii n hn => revert n; decide +kernel
  | hfixed c hupper _ => rw [hupper]

theorem isAlphanumeric_toLower (c : Char) : isAlphanumeric c.toLower = isAlphanumeric c := by
  induction c using forall_char with
  | hascii n hn => revert n; decide +kernel
  | hfixed c _ hlower => rw [hlower]

theorem toLower_toUpper (c : Char) : c.toUpper.toLower = c.toLower := by
  induction c using forall_char with
  | hascii n hn => revert n; decide +kernel
  | hfixed c hupper _ => rw [hupper]

theorem toLower_toLower (c : Char) : c.toLower.toLower = c.toLower := by
  induction c using forall_char with
  | hascii n hn => revert n; decide +kernel
  | hfixed c _ hlower => rw [hlower, hlower]

/-! ### Names

Splitting a name into words drops what is neither letter nor digit, and joining the words changes nothing
but the case of ASCII letters. -/

theorem isAlphanumeric_of_mem_joinWords {st : CasingState} {cs : List Char} {c : Char}
    (h : c ∈ joinWords st cs) : isAlphanumeric c = true := by
  induction cs generalizing st with
  | nil => cases h
  | cons d rest ih =>
    rw [joinWords] at h
    split at h
    · exact ih h
    · next hd =>
      rw [Bool.not_eq_true', Bool.not_eq_false] at hd
      split at h
      · rcases List.mem_cons.1 h with rfl | h
        · exact hd
        · exact ih h
      · split at h
        · rcases List.mem_cons.1 h with rfl | h
          · rwa [isAlphanumeric_toUpper]
          · exact ih h
        · rcases List.mem_cons.1 h with rfl | h
          · rwa [isAlphanumeric_toLower]
          · exact ih h

theorem map_toLower_joinWords (st : CasingState) (cs : List Char) :
    (joinWords st cs).map Char.toLower = (cs.filter isAlphanumeric).map Char.toLower := by
  induction cs generalizing st with
  | nil => rfl
  | cons c rest ih =>
    rw [joinWords]
    split
    · next hc => rw [ih, List.filter_cons_of_neg (by simpa using hc)]
    · next hc =>
      rw [List.filter_cons_of_pos (by simpa using hc), List.map_cons]
      split
      · rw [List.map_cons, ih]
      · split
        · rw [List.map_cons, ih, toLower_toUpper]
        · rw [List.map_cons, ih, toLower_toLower]

/-- What is dropped at the end of a name are no letters or digits. -/
theorem filter_dropEnd (cs : List Char) :
    (cs.reverse.dropWhile (!isAlphanumeric ·)).reverse.filter isAlphanumeric =
      cs.filter isAlphanumeric := by
  have hnone : (cs.reverse.takeWhile (!isAlphanumeric ·)).filter isAlphanumeric = [] := by
    refine List.filter_eq_nil_iff.2 fun c hc => ?_
    simpa using List.mem_takeWhile_imp hc
  have hsplit := congrArg (List.filter isAlphanumeric)
    (List.takeWhile_append_dropWhile (p := (!isAlphanumeric ·)) (l := cs.reverse))
  rw [List.filter_append, hnone, List.nil_append] at hsplit
  rw [List.filter_reverse, hsplit, List.filter_reverse, List.reverse_reverse]

/-- Camel case keeps the letters and digits of a name, but for the case of ASCII letters. -/
theorem letters_camelCase (s : String) : letters (camelCase s) = letters s := by
  have hall : (joinWords ⟨false, false, false⟩
      (s.toList.reverse.dropWhile (!isAlphanumeric ·)).reverse).filter isAlphanumeric =
      joinWords ⟨false, false, false⟩ (s.toList.reverse.dropWhile (!isAlphanumeric ·)).reverse :=
    List.filter_eq_self.2 fun _ => isAlphanumeric_of_mem_joinWords
  rw [letters, camelCase, toCase, String.toList_ofList, hall, map_toLower_joinWords, filter_dropEnd,
    letters]

/-- Camel case leaves nothing only of a name without letters and digits. -/
theorem camelCase_eq_empty_iff (s : String) : camelCase s = "" ↔ letters s = [] := by
  constructor
  · intro h
    rw [← letters_camelCase, h]
    rfl
  · intro h
    have hnone : (joinWords ⟨false, false, false⟩
        (s.toList.reverse.dropWhile (!isAlphanumeric ·)).reverse).map Char.toLower = [] := by
      rw [map_toLower_joinWords, filter_dropEnd]
      exact h
    rw [camelCase, toCase, List.map_eq_nil_iff.1 hnone]

/-- Names joined by underscores have the letters and digits of the names. -/
theorem letters_intercalate (names : List String) :
    letters ("_".intercalate names) = names.flatMap letters := by
  have hsplit : ∀ a b : List Char, ((a ++ b).filter isAlphanumeric).map Char.toLower =
      (a.filter isAlphanumeric).map Char.toLower ++ (b.filter isAlphanumeric).map Char.toLower := by
    intro a b
    rw [List.filter_append, List.map_append]
  have hunderscore : "_".toList.filter isAlphanumeric = [] := by decide +kernel
  rw [letters, String.toList_intercalate]
  induction names with
  | nil => rfl
  | cons name rest ih =>
    cases rest with
    | nil => simp [letters]
    | cons next rest =>
      rw [List.map_cons] at ih
      rw [List.map_cons, List.map_cons, List.intercalate_cons_cons, hsplit, hsplit, hunderscore, ih,
        List.map_nil, List.append_nil]
      rfl

end FixturePlan.Text
