import FixturePlan.Settings.Basic
import Mathlib.Data.List.TakeWhile

/-!
# Texts with variables, piece by piece

A text with variables is a sequence of pieces: literal texts, variables with and without braces, and
dollar signs that stand for themselves. Pieces that may stand next to each other are expanded one by one
(`Expansion.expandChars_written`), so the expansion is either all their values in a row or the name of
the first variable that is not set (`Expansion.expand_written`). Every text consists of such pieces, once
a brace left open at its end is closed (`Expansion.exists_writtenAs`).
-/

namespace FixturePlan.Expansion

/-- A piece of a text with variables. -/
inductive Piece where
  | literal (text : List Char)
  | braced (name : List Char)
  | bare (name : List Char)
  | dollar
  deriving DecidableEq

/-- The characters of bare names. -/
def NameChar (c : Char) : Prop := Text.isAlphanumeric c = true ∨ c = '_'

instance : DecidablePred NameChar := fun c =>
  inferInstanceAs (Decidable (Text.isAlphanumeric c = true ∨ c = '_'))

namespace Piece

/-- How a piece is written. -/
def written : Piece → List Char
  | literal text => text
  | braced name => '$' :: '\x7b' :: name ++ ['\x7d']
  | bare name => '$' :: name
  | dollar => ['$']

/-- The variable that a piece names. -/
def name? : Piece → Option String
  | braced name => some (String.ofList name)
  | bare name => some (String.ofList name)
  | literal _ => none
  | dollar => none

/-- What a piece stands for: a variable for its value as it is, or for nothing if it is not set. -/
def value (env : Environment) : Piece → List Char
  | literal text => text
  | braced name => ((env (String.ofList name)).getD "").toList
  | bare name => ((env (String.ofList name)).getD "").toList
  | dollar => ['$']

/-- The pieces that may stand before a text: they are made of the right characters, and the text does not
go on with what would belong to them. -/
inductive StandsBefore (rest : List Char) : Piece → Prop where
  | literal {text : List Char} (h : '$' ∉ text) : StandsBefore rest (.literal text)
  | braced {name : List Char} (h : '\x7d' ∉ name) : StandsBefore rest (.braced name)
  | bare {name : List Char} (hne : name ≠ []) (hname : ∀ c ∈ name, NameChar c)
      (hend : ∀ c ∈ rest.head?, ¬NameChar c) : StandsBefore rest (.bare name)
  | dollar (hend : ∀ c ∈ rest.head?, c ≠ '\x7b' ∧ ¬NameChar c) : StandsBefore rest .dollar

end Piece

/-- How pieces are written in a row. -/
def written (ps : List Piece) : List Char := ps.flatMap Piece.written

/-- The variables that pieces name, in order. -/
def names (ps : List Piece) : List String := ps.filterMap Piece.name?

/-- Each piece may stand before those that follow it. -/
def Separated : List Piece → Prop
  | [] => True
  | p :: ps => p.StandsBefore (written ps) ∧ Separated ps

/-! ### One piece

The scan stops at the end of each piece: a bare name ends before the first character that is no name
character, a braced one at its brace. -/

variable {env : Environment} {rest : List Char}

theorem isNameChar_eq_true_iff {c : Char} : isNameChar c = true ↔ NameChar c := by
  rw [isNameChar, Bool.or_eq_true, beq_iff_eq, NameChar]

theorem isNameChar_eq_false_iff {c : Char} : isNameChar c = false ↔ ¬NameChar c := by
  rw [← Bool.not_eq_true, isNameChar_eq_true_iff]

theorem not_nameChar_openBrace : ¬NameChar '\x7b' :=
  isNameChar_eq_false_iff.1 (by decide +kernel)

theorem not_nameChar_closeBrace : ¬NameChar '\x7d' :=
  isNameChar_eq_false_iff.1 (by decide +kernel)

theorem bracedName_append {name : List Char} (h : '\x7d' ∉ name) :
    bracedName (name ++ '\x7d' :: rest) = name ∧ afterBraced (name ++ '\x7d' :: rest) = rest := by
  have hname : ∀ c ∈ name, (c != '\x7d') = true := fun c hc => bne_iff_ne.2 fun heq => h (heq ▸ hc)
  rw [bracedName, afterBraced, List.takeWhile_append_of_pos hname, List.dropWhile_append_of_pos hname]
  simp

theorem bareName_append {name : List Char} (hname : ∀ c ∈ name, NameChar c)
    (hend : ∀ c ∈ rest.head?, ¬NameChar c) :
    bareName (name ++ rest) = name ∧ afterBare (name ++ rest) = rest := by
  have hchars : ∀ c ∈ name, isNameChar c = true := fun c hc => isNameChar_eq_true_iff.2 (hname c hc)
  rw [bareName, afterBare, List.takeWhile_append_of_pos hchars, List.dropWhile_append_of_pos hchars]
  cases rest with
  | nil => simp
  | cons c rest => simp [isNameChar_eq_false_iff.2 (hend c rfl)]

theorem bareName_append_afterBare (cs : List Char) : bareName cs ++ afterBare cs = cs :=
  List.takeWhile_append_dropWhile

theorem not_nameChar_of_mem_head? {cs : List Char} : ∀ c ∈ (afterBare cs).head?, ¬NameChar c := by
  intro c hc
  have hstop := List.head?_dropWhile_not isNameChar cs
  rw [← afterBare, hc] at hstop
  exact isNameChar_eq_false_iff.1 hstop

/-- What a piece gives: its text, or the value of its variable if that is set. -/
def Piece.read (env : Environment) : Piece → Except String (List Char)
  | literal text => .ok text
  | braced name => valueOf env name
  | bare name => valueOf env name
  | dollar => .ok ['$']

theorem expandChars_cons_of_ne {c : Char} (hc : c ≠ '$') :
    expandChars env (c :: rest) = insertValue (.ok [c]) (expandChars env rest) :=
  expandChars.eq_4 env c rest (fun _ h _ => hc h) hc

theorem expandChars_dollar (h : rest.head? ≠ some '\x7b') :
    expandChars env ('$' :: rest) =
      if (bareName rest).isEmpty then insertValue (.ok ['$']) (expandChars env rest)
      else insertValue (valueOf env (bareName rest)) (expandChars env (afterBare rest)) :=
  expandChars.eq_3 env rest (fun _ heq => h (heq ▸ rfl))

theorem insertValue_nil (r : Except String (List Char)) : insertValue (.ok []) r = r := by
  cases r <;> rfl

theorem insertValue_cons (c : Char) (text : List Char) (r : Except String (List Char)) :
    insertValue (.ok [c]) (insertValue (.ok text) r) = insertValue (.ok (c :: text)) r := by
  cases r <;> rfl

theorem expandChars_literal {text : List Char} (h : '$' ∉ text) :
    expandChars env (text ++ rest) = insertValue (.ok text) (expandChars env rest) := by
  induction text with
  | nil => rw [List.nil_append, insertValue_nil]
  | cons c text ih =>
    rw [List.mem_cons, not_or] at h
    rw [List.cons_append, expandChars_cons_of_ne (Ne.symm h.1), ih h.2, insertValue_cons]

/-- A piece is expanded by itself, whatever it stands before. -/
theorem expandChars_written_append {p : Piece} (h : p.StandsBefore rest) :
    expandChars env (p.written ++ rest) = insertValue (p.read env) (expandChars env rest) := by
  -- by the kind of piece: the scan reads just this piece and goes on with the rest
  cases h with
  | literal h => exact expandChars_literal h
  | @braced name h =>
    show expandChars env ('$' :: '\x7b' :: (name ++ ['\x7d'] ++ rest)) = _
    rw [List.append_assoc, List.singleton_append, expandChars, (bracedName_append h).1,
      (bracedName_append h).2]
    rfl
  | @bare name hne hname hend =>
    obtain ⟨hread, hafter⟩ := bareName_append hname hend
    have hbrace : (name ++ rest).head? ≠ some '\x7b' := by
      obtain ⟨c, cs, rfl⟩ := List.exists_cons_of_ne_nil hne
      rintro ⟨⟩
      exact not_nameChar_openBrace (hname _ List.mem_cons_self)
    show expandChars env ('$' :: (name ++ rest)) = _
    rw [expandChars_dollar hbrace, hread, hafter, List.isEmpty_eq_false_iff.2 hne]
    rfl
  | dollar hend =>
    have hname : bareName ([] ++ rest) = [] ∧ afterBare ([] ++ rest) = rest :=
      bareName_append (List.forall_mem_nil _) fun c hc => (hend c hc).2
    show expandChars env ('$' :: rest) = _
    rw [expandChars_dollar fun hc => (hend _ hc).1 rfl, ← List.nil_append rest, hname.1]
    rfl

/-! ### Pieces in a row

Expansion reads the variables from left to right, and the first that is not set ends it. -/

/-- Expand pieces one by one. -/
def expandPieces (env : Environment) (ps : List Piece) : Except String (List Char) :=
  ps.foldr (fun p => insertValue (p.read env)) (.ok [])

/-- A text is expanded piece by piece. -/
theorem expandChars_written {ps : List Piece} (h : Separated ps) :
    expandChars env (written ps) = expandPieces env ps := by
  induction ps with
  | nil => exact expandChars.eq_1 env
  | cons p ps ih =>
    show expandChars env (p.written ++ written ps) = _
    rw [expandChars_written_append h.1, ih h.2]
    rfl

theorem Piece.read_of_set {p : Piece} (h : ∀ name ∈ p.name?, (env name).isSome = true) :
    p.read env = .ok (p.value env) := by
  have hvalue : ∀ name, (env (String.ofList name)).isSome = true →
      valueOf env name = .ok ((env (String.ofList name)).getD "").toList := by
    intro name hset
    obtain ⟨v, hv⟩ := Option.isSome_iff_exists.1 hset
    rw [valueOf, hv]
    rfl
  cases p with
  | literal => rfl
  | dollar => rfl
  | braced name => exact hvalue name (h _ rfl)
  | bare name => exact hvalue name (h _ rfl)

theorem Piece.read_of_unset {p : Piece} {name : String} (hname : p.name? = some name)
    (h : env name = none) : p.read env = .error name := by
  have hvalue : ∀ cs, String.ofList cs = name → valueOf env cs = .error name := by
    rintro cs rfl
    rw [valueOf, h]
  cases p with
  | literal => cases hname
  | dollar => cases hname
  | braced cs => exact hvalue cs (Option.some.inj hname)
  | bare cs => exact hvalue cs (Option.some.inj hname)

/-- The first of the variables that is not set. -/
def firstUnset? (env : Environment) (ps : List Piece) : Option String :=
  (names ps).find? fun name => (env name).isNone

theorem firstUnset?_eq_none_iff {ps : List Piece} :
    firstUnset? env ps = none ↔ ∀ name ∈ names ps, (env name).isSome = true := by
  rw [firstUnset?, List.find?_eq_none]
  simp only [Bool.not_eq_true, Option.isNone_eq_false_iff]

/-- The pieces give their values in a row, or the name of the first variable that is not set. -/
theorem expandPieces_eq (ps : List Piece) :
    expandPieces env ps =
      match firstUnset? env ps with
      | some name => .error name
      | none => .ok (ps.flatMap (Piece.value env)) := by
  -- the leftmost unset name wins, as the value of a piece is read before the rest
  induction ps with
  | nil => rfl
  | cons p ps ih =>
    show insertValue (p.read env) (expandPieces env ps) = _
    rw [ih]
    cases hname : p.name? with
    | none =>
      have hrest : firstUnset? env (p :: ps) = firstUnset? env ps := by
        rw [firstUnset?, names, List.filterMap_cons_none hname]
        rfl
      rw [Piece.read_of_set (by rw [hname]; nofun), hrest]
      cases firstUnset? env ps <;> rfl
    | some name =>
      have hrest : firstUnset? env (p :: ps) =
          if (env name).isNone then some name else firstUnset? env ps := by
        rw [firstUnset?, names, List.filterMap_cons_some hname, List.find?_cons]
        cases (env name).isNone <;> rfl
      rw [hrest]
      cases hset : env name with
      | none =>
        rw [Piece.read_of_unset hname hset]
        rfl
      | some v =>
        have hp : ∀ n ∈ p.name?, (env n).isSome = true := by
          rintro n hn
          obtain rfl := Option.some.inj (hname.symm.trans hn)
          rw [hset]
          rfl
        rw [Piece.read_of_set hp]
        show insertValue _ (match firstUnset? env ps with | some name => _ | none => _) =
          match firstUnset? env ps with | some name => _ | none => _
        cases firstUnset? env ps <;> rfl

/-- The expansion of a text that is written in pieces: the values of the pieces in a row if all variables
are set, and otherwise the failure that names the first one that is not. A value is inserted as it is, also
if there are dollar signs in it. -/
theorem expand_written (env : Environment) {ps : List Piece} (h : Separated ps) :
    (∀ t, expand env (String.ofList (written ps)) = .ok t ↔
      (∀ name ∈ names ps, (env name).isSome = true) ∧
        t = String.ofList (ps.flatMap (Piece.value env))) ∧
    ∀ e, (expand env (String.ofList (written ps))).mapError SettingsError.missingVariable = .error e ↔
      ∃ name, firstUnset? env ps = some name ∧ e = .missingVariable name := by
  have hexpand : expand env (String.ofList (written ps)) =
      match firstUnset? env ps with
      | some name => .error name
      | none => .ok (String.ofList (ps.flatMap (Piece.value env))) := by
    rw [expand, String.toList_ofList, expandChars_written h, expandPieces_eq]
    cases firstUnset? env ps <;> rfl
  rw [hexpand, ← firstUnset?_eq_none_iff]
  cases firstUnset? env ps with
  | none => simp [Except.mapError, eq_comm]
  | some name => simp [Except.mapError, eq_comm]

/-- Pieces that stand close: a dollar sign before a variable, a name in braces with a brace and a dollar
sign in it, and a name beyond ASCII before a brace. -/
def samplePieces : List Piece :=
  [.literal "a-".toList, .dollar, .bare "x_1".toList, .literal "!".toList, .braced "p\x7b$".toList,
    .bare "é".toList, .literal "\x7d".toList, .dollar]

theorem expand_written_sample :
    expand (fun name => if name = "é" then some "$x_1" else some "1")
        "a-$$x_1!$\x7bp\x7b$\x7d$é\x7d$" = .ok "a-$1!1$x_1\x7d$" ∧
      (expand (fun name => if name = "x_1" then some "1" else none)
        "a-$$x_1!$\x7bp\x7b$\x7d$é\x7d$").mapError SettingsError.missingVariable =
          .error (.missingVariable "p\x7b$") := by
  have hname : ∀ name : List Char, name.all (NameChar ·) = true → ∀ c ∈ name, NameChar c :=
    fun name hall c hc => of_decide_eq_true (List.all_eq_true.1 hall c hc)
  have hseparated : Separated samplePieces := by
    refine ⟨.literal (by decide), .dollar ?_, .bare (by decide) (hname _ (by decide +kernel)) ?_,
      .literal (by decide), .braced (by decide), .bare (by decide) (hname _ (by decide +kernel)) ?_,
      .literal (by decide), .dollar nofun, trivial⟩
    · rintro c ⟨⟩
      exact ⟨by decide, by decide +kernel⟩
    · rintro c ⟨⟩
      decide +kernel
    · rintro c ⟨⟩
      decide +kernel
  have htext : String.ofList (written samplePieces) = "a-$$x_1!$\x7bp\x7b$\x7d$é\x7d$" := by
    decide +kernel
  rw [← htext]
  refine ⟨((expand_written _ hseparated).1 _).2 ⟨?_, by decide +kernel⟩, ?_⟩
  · intro name _
    split <;> rfl
  · exact ((expand_written _ hseparated).2 _).2 ⟨_, by decide +kernel, rfl⟩

/-! ### Every text

No text is left out by speaking of pieces: the recursion of the scan splits every text, and only a brace
that stays open has to be closed. -/

/-- A text is written as pieces once a brace left open at its end is closed, and is expanded as they are. -/
structure WrittenAs (cs : List Char) (ps : List Piece) : Prop where
  separated : Separated ps
  written_eq : written ps = cs ∨ written ps = cs ++ ['\x7d']
  expandChars_eq : ∀ env, expandChars env cs = expandPieces env ps

namespace WrittenAs

variable {p : Piece} {ps : List Piece}

theorem standsBefore (h : WrittenAs rest ps) (hp : p.StandsBefore rest) :
    p.StandsBefore (written ps) := by
  obtain heq | heq := h.written_eq
  · rwa [heq]
  rw [heq]
  -- a closing brace at the end belongs to no name
  have hhead : ∀ {P : Char → Prop}, P '\x7d' → (∀ c ∈ rest.head?, P c) →
      ∀ c ∈ (rest ++ ['\x7d']).head?, P c := by
    intro P hbrace hrest
    cases rest with
    | nil => simpa using hbrace
    | cons c rest => exact hrest
  cases hp with
  | literal h => exact .literal h
  | braced h => exact .braced h
  | bare hne hname hend => exact .bare hne hname (hhead not_nameChar_closeBrace hend)
  | dollar hend => exact .dollar (hhead ⟨by decide, not_nameChar_closeBrace⟩ hend)

theorem cons (h : WrittenAs rest ps) (hp : p.StandsBefore rest) :
    WrittenAs (p.written ++ rest) (p :: ps) where
  separated := ⟨h.standsBefore hp, h.separated⟩
  written_eq := by
    show p.written ++ written ps = _ ∨ p.written ++ written ps = _
    obtain heq | heq := h.written_eq
    · exact .inl (congrArg _ heq)
    · exact .inr (by rw [heq, List.append_assoc])
  expandChars_eq env := by
    rw [expandChars_written_append hp, h.expandChars_eq]
    rfl

end WrittenAs

theorem writtenAs_openBrace {name : List Char} (h : '\x7d' ∉ name) :
    WrittenAs ('$' :: '\x7b' :: name) [.braced name] where
  separated := ⟨.braced h, trivial⟩
  written_eq := .inr (List.append_nil _)
  expandChars_eq env := by
    have hname : ∀ c ∈ name, (c != '\x7d') = true := fun c hc => bne_iff_ne.2 fun heq => h (heq ▸ hc)
    rw [expandChars, bracedName, List.takeWhile_eq_self_iff.2 hname, afterBraced,
      List.dropWhile_eq_nil_iff.2 hname, List.drop_nil, expandChars]
    rfl

/-- Every text is written as pieces, but for a brace that is left open. -/
theorem exists_writtenAs (cs : List Char) : ∃ ps, WrittenAs cs ps := by
  -- by the cases of the scan itself
  induction cs using expandChars.induct with
  | case1 => exact ⟨[], trivial, .inl rfl, expandChars.eq_1⟩
  | case2 inner ih =>
    by_cases hbrace : '\x7d' ∈ inner
    · obtain ⟨name, rest, rfl, hname⟩ := List.eq_append_cons_of_mem hbrace
      rw [(bracedName_append hname).2] at ih
      obtain ⟨ps, hps⟩ := ih
      have hcons := hps.cons (.braced hname)
      rw [Piece.written, List.append_assoc, List.singleton_append] at hcons
      exact ⟨_, hcons⟩
    · exact ⟨_, writtenAs_openBrace hbrace⟩
  | case3 rest hopen hempty ih =>
    obtain ⟨ps, hps⟩ := ih
    have hsplit := bareName_append_afterBare rest
    rw [List.isEmpty_iff.1 hempty, List.nil_append] at hsplit
    refine ⟨_, hps.cons (p := .dollar) (.dollar fun c hc => ⟨?_, ?_⟩)⟩
    · rintro rfl
      obtain ⟨inner, rfl⟩ := List.head?_eq_some_iff.1 hc
      exact hopen inner rfl
    · rw [← hsplit] at hc
      exact not_nameChar_of_mem_head? c hc
  | case4 rest hopen hname ih =>
    obtain ⟨ps, hps⟩ := ih
    have hcons := hps.cons (p := .bare (bareName rest)) (.bare ?_ ?_ not_nameChar_of_mem_head?)
    · rw [Piece.written, List.cons_append, bareName_append_afterBare] at hcons
      exact ⟨_, hcons⟩
    · exact fun hnil => hname (List.isEmpty_iff.2 hnil)
    · exact fun c hc => isNameChar_eq_true_iff.1 (List.mem_takeWhile_imp hc)
  | case5 c rest _ hc ih =>
    obtain ⟨ps, hps⟩ := ih
    exact ⟨_, hps.cons (p := .literal [c]) (.literal (by simpa using fun h => hc h.symm))⟩

end FixturePlan.Expansion
