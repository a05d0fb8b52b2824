import FixturePlan.Text.Quoted
import Mathlib.Data.List.TakeWhile
import Mathlib.Tactic.SplitIfs

/-!
# Quoted text tells the text

Inside a quoted text a character stands for itself, behind a backslash, or as its code point in braces
(`Text.Form`). No form begins another (`Text.Form.append_inj`), so different texts are quoted differently
(`Text.quoted_inj`).
-/

namespace FixturePlan.Text

/-! ### Digits

A number is its last digit and the number before it. -/

/-- What holds of the digits below a base holds of the characters of every number in it. -/
theorem forall_mem_toDigits {base : ℕ} (hbase : 1 < base) {P : Char → Prop}
    (hdigit : ∀ d < base, P d.digitChar) (n : ℕ) : ∀ c ∈ Nat.toDigits base n, P c := by
  induction n using Nat.strongRecOn with
  | ind n ih =>
    rw [Nat.toDigits_eq_if hbase]
    split
    · next hlt => exact List.forall_mem_singleton.2 (hdigit n hlt)
    · next hle =>
      have hpos : 0 < n := Nat.zero_lt_of_lt ((Nat.zero_lt_of_lt hbase).trans_le (Nat.le_of_not_lt hle))
      intro c hc
      rcases List.mem_append.1 hc with hc | hc
      · exact ih (n / base) (Nat.div_lt_self hpos hbase) c hc
      · exact List.mem_singleton.1 hc ▸ hdigit _ (Nat.mod_lt n (Nat.zero_lt_of_lt hbase))

/-- Numbers are told apart by their digits, in every base that has a character for each. -/
theorem toDigits_inj {base : ℕ} (hbase : 1 < base) (hchars : base ≤ 16) {m n : ℕ} :
    Nat.toDigits base m = Nat.toDigits base n ↔ m = n := by
  refine ⟨fun h => ?_, congrArg _⟩
  have hall : ∀ d < 16, ∀ e < 16, Nat.digitChar d = Nat.digitChar e → d = e := by decide
  have hdigit : ∀ {d e}, d < base → e < base → Nat.digitChar d = Nat.digitChar e → d = e :=
    fun hd he => hall _ (hd.trans_le hchars) _ (he.trans_le hchars)
  have hpos : 0 < base := Nat.zero_lt_of_lt hbase
  -- on the value: the last digit is the remainder, the rest are the digits of the quotient
  induction m using Nat.strongRecOn generalizing n with
  | ind m ih =>
    rw [Nat.toDigits_eq_if hbase (n := m), Nat.toDigits_eq_if hbase (n := n)] at h
    split at h <;> split at h
    · next hm hn => exact hdigit hm hn (List.singleton_inj.1 h)
    · exact absurd (List.append_inj' (show [] ++ [m.digitChar] = _ from h) rfl).1.symm
        Nat.toDigits_ne_nil
    · exact absurd (List.append_inj' (show _ = [] ++ [n.digitChar] from h) rfl).1 Nat.toDigits_ne_nil
    · next hm _ =>
      obtain ⟨hhigh, hlow⟩ := List.append_inj' h rfl
      have hm : 0 < m := hpos.trans_le (Nat.le_of_not_lt hm)
      have hdiv : m / base = n / base := ih _ (Nat.div_lt_self hm hbase) hhigh
      have hmod : m % base = n % base :=
        hdigit (Nat.mod_lt _ hpos) (Nat.mod_lt _ hpos) (List.singleton_inj.1 hlow)
      rw [← Nat.div_add_mod m base, hdiv, hmod, Nat.div_add_mod]

/-! ### Runs of characters

Where a piece cannot hold the character that comes after it, its end can be found. -/

/-- A run of characters that pass a test is told from what follows it by a character that does not. -/
theorem append_inj_of_run {p : Char → Bool} {a b s t : List Char} (ha : ∀ c ∈ a, p c = true)
    (hb : ∀ c ∈ b, p c = true) (hs : ∀ c ∈ s.head?, p c = false) (ht : ∀ c ∈ t.head?, p c = false)
    (h : a ++ s = b ++ t) : a = b ∧ s = t := by
  have hstop : ∀ l : List Char, (∀ c ∈ l.head?, p c = false) → l.takeWhile p = [] := by
    intro l hl
    cases l with
    | nil => rfl
    | cons c l => rw [List.takeWhile_cons, hl c rfl]; rfl
  have hrun := congrArg (List.takeWhile p) h
  rw [List.takeWhile_append_of_pos ha, List.takeWhile_append_of_pos hb, hstop s hs, hstop t ht,
    List.append_nil, List.append_nil] at hrun
  subst hrun
  exact ⟨rfl, List.append_cancel_left h⟩

/-- Pieces behind separators, whose first character stands in none of them, are told apart. -/
theorem append_flatMap_inj {c : Char} {sep a b : List Char} {l m : List (List Char)} (ha : c ∉ a)
    (hb : c ∉ b) (hl : ∀ piece ∈ l, c ∉ piece) (hm : ∀ piece ∈ m, c ∉ piece)
    (h : a ++ l.flatMap (c :: sep ++ ·) = b ++ m.flatMap (c :: sep ++ ·)) : a = b ∧ l = m := by
  have hrun : ∀ {a : List Char}, c ∉ a → ∀ d ∈ a, (d != c) = true := fun ha d hd =>
    bne_iff_ne.2 fun heq => ha (heq ▸ hd)
  have hstop : ∀ l : List (List Char), ∀ d ∈ (l.flatMap (c :: sep ++ ·)).head?, (d != c) = false := by
    rintro (_ | ⟨piece, rest⟩) d hd
    · cases hd
    · cases hd
      exact bne_self_eq_false c
  -- a piece ends where the separator begins, since no piece has its first character
  induction l generalizing a b m with
  | nil =>
    obtain ⟨rfl, hrest⟩ := append_inj_of_run (hrun ha) (hrun hb) (hstop []) (hstop m) h
    cases m with
    | nil => exact ⟨rfl, rfl⟩
    | cons => cases hrest
  | cons piece rest ih =>
    obtain ⟨rfl, hrest⟩ := append_inj_of_run (hrun ha) (hrun hb) (hstop _) (hstop m) h
    cases m with
    | nil => cases hrest
    | cons piece' rest' =>
      rw [List.flatMap_cons, List.flatMap_cons, List.append_assoc, List.append_assoc] at hrest
      obtain ⟨hpiece, hrests⟩ := List.forall_mem_cons.1 hl
      obtain ⟨hpiece', hrests'⟩ := List.forall_mem_cons.1 hm
      obtain ⟨rfl, rfl⟩ := ih hpiece hpiece' hrests hrests' (List.append_cancel_left hrest)
      exact ⟨rfl, rfl⟩

theorem intercalate_cons (sep piece : List Char) (rest : List (List Char)) :
    sep.intercalate (piece :: rest) = piece ++ rest.flatMap (sep ++ ·) := by
  induction rest generalizing piece with
  | nil => rw [List.intercalate_singleton, List.flatMap_nil, List.append_nil]
  | cons next rest ih =>
    rw [List.intercalate_cons_cons, ih, List.flatMap_cons, List.append_assoc, List.append_assoc]

/-- Pieces joined by a separator, whose first character stands in none of them, are told apart. -/
theorem intercalate_inj {c : Char} {sep : List Char} {l m : List (List Char)}
    (hl : ∀ piece ∈ l, piece ≠ [] ∧ c ∉ piece) (hm : ∀ piece ∈ m, piece ≠ [] ∧ c ∉ piece)
    (h : (c :: sep).intercalate l = (c :: sep).intercalate m) : l = m := by
  cases l with
  | nil =>
    cases m with
    | nil => rfl
    | cons piece rest =>
      rw [List.intercalate_nil, intercalate_cons] at h
      exact absurd (List.append_eq_nil_iff.1 h.symm).1 (List.forall_mem_cons.1 hm).1.1
  | cons piece rest =>
    obtain ⟨⟨hpiece, hfree⟩, hrest⟩ := List.forall_mem_cons.1 hl
    cases m with
    | nil =>
      rw [List.intercalate_nil, intercalate_cons] at h
      exact absurd (List.append_eq_nil_iff.1 h).1 hpiece
    | cons piece' rest' =>
      obtain ⟨⟨-, hfree'⟩, hrest'⟩ := List.forall_mem_cons.1 hm
      rw [intercalate_cons, intercalate_cons] at h
      obtain ⟨rfl, rfl⟩ := append_flatMap_inj hfree hfree' (fun p hp => (hrest p hp).2)
        (fun p hp => (hrest' p hp).2) h
      rfl

/-! ### Characters

The first characters tell which form stands there, and the form where it ends. -/

/-- The characters with an escape letter, and their letters. -/
def escapeLetters : List (Char × Char) :=
  [('\x00', '0'), ('\t', 't'), ('\r', 'r'), ('\n', 'n'), ('\\', '\\'), ('"', '"')]

/-- The forms that characters have inside a quoted text. -/
inductive Form : Char → List Char → Prop where
  | plain {c : Char} (hc : c ≠ '\\') : Form c [c]
  | letter {c l : Char} (hl : (c, l) ∈ escapeLetters) : Form c ['\\', l]
  | codePoint (c : Char) : Form c (codePointEscape c)

theorem form_quoteChar (c : Char) : Form c (quoteChar c) := by
  rw [quoteChar]
  simp only [beq_iff_eq]
  split_ifs with hzero htab hreturn hnewline hbackslash hquote
  · subst hzero
    exact .letter (by decide)
  · subst htab
    exact .letter (by decide)
  · subst hreturn
    exact .letter (by decide)
  · subst hnewline
    exact .letter (by decide)
  · subst hbackslash
    exact .letter (by decide)
  · subst hquote
    exact .letter (by decide)
  · exact .codePoint c
  · exact .plain hbackslash
  · exact .codePoint c

namespace Form

variable {a b : Char} {u v s t : List Char}

theorem ne_nil (h : Form a u) : u ≠ [] := by
  cases h with
  | plain => exact List.cons_ne_nil _ _
  | letter => exact List.cons_ne_nil _ _
  | codePoint => exact List.cons_ne_nil _ _

/-- Code points are told apart, with what follows them. -/
theorem codePointEscape_append_inj (h : codePointEscape a ++ s = codePointEscape b ++ t) :
    a = b ∧ s = t := by
  have hdigits : ∀ c : Char, ∀ d ∈ Nat.toDigits 16 c.toNat, (d != '\x7d') = true := fun c =>
    forall_mem_toDigits (by decide) (by decide) c.toNat
  simp only [codePointEscape, List.append_assoc, List.cons_append, List.nil_append, List.cons.injEq,
    true_and] at h
  obtain ⟨hnumber, hrest⟩ := append_inj_of_run (hdigits a) (hdigits b) (by simp) (by simp) h
  exact ⟨Char.toNat_inj.1 ((toDigits_inj (by decide) (by decide)).1 hnumber), (List.cons.inj hrest).2⟩

/-- No form begins another: characters are told apart, with what follows them. -/
theorem append_inj (hu : Form a u) (hv : Form b v) (h : u ++ s = v ++ t) : a = b ∧ s = t := by
  have hletters : ∀ p ∈ escapeLetters, p.2 ≠ 'u' := by decide
  cases hu with
  | plain ha =>
    cases hv with
    | plain => exact List.cons.inj h
    | letter => exact absurd (List.cons.inj h).1 ha
    | codePoint => exact absurd (List.cons.inj h).1 ha
  | @letter l hl =>
    cases hv with
    | plain hb => exact absurd (List.cons.inj h).1.symm hb
    | @letter m hm =>
      obtain ⟨rfl, hrest⟩ := List.cons.inj (List.cons.inj h).2
      have hunique : ∀ p ∈ escapeLetters, ∀ q ∈ escapeLetters, p.2 = q.2 → p.1 = q.1 := by decide
      exact ⟨hunique _ hl _ hm rfl, hrest⟩
    | codePoint => exact absurd (List.cons.inj (List.cons.inj h).2).1 (hletters _ hl)
  | codePoint =>
    cases hv with
    | plain hb => exact absurd (List.cons.inj h).1.symm hb
    | @letter m hm => exact absurd (List.cons.inj (List.cons.inj h).2).1.symm (hletters _ hm)
    | codePoint => exact codePointEscape_append_inj h

end Form

/-! ### Texts

The forms are read back one after the other. -/

theorem flatMap_quoteChar_inj {cs ds : List Char} (h : cs.flatMap quoteChar = ds.flatMap quoteChar) :
    cs = ds := by
  induction cs generalizing ds with
  | nil =>
    cases ds with
    | nil => rfl
    | cons d ds => exact absurd (List.append_eq_nil_iff.1 h.symm).1 (form_quoteChar d).ne_nil
  | cons c cs ih =>
    cases ds with
    | nil => exact absurd (List.append_eq_nil_iff.1 h).1 (form_quoteChar c).ne_nil
    | cons d ds =>
      rw [List.flatMap_cons, List.flatMap_cons] at h
      obtain ⟨rfl, hrest⟩ := (form_quoteChar c).append_inj (form_quoteChar d) h
      rw [ih hrest]

/-- Different texts are quoted differently. -/
theorem quoted_inj {s t : String} : quoted s = quoted t ↔ s = t := by
  constructor
  · intro h
    have hchars : quoteChars s.toList = quoteChars t.toList := String.ofList_injective h
    have hbody := List.append_cancel_right (List.cons.inj hchars).2
    exact String.toList_inj.1 (flatMap_quoteChar_inj hbody)
  · exact congrArg quoted

/-- The escape for a character that does not print, next to text that looks like it. -/
example : quoteChars ['\x01'] = "\"\\u\x7b1\x7d\"".toList ∧
    quoteChars "\\u\x7b1\x7d".toList = "\"\\\\u\x7b1\x7d\"".toList := by
  decide +kernel

end FixturePlan.Text
