import FixturePlan.Text.Category
import FixturePlan.Text.LetterCase
import FixturePlan.Text.Script
import FixturePlan.Text.WordChar

/-!
# Properties of characters

The sets of characters that patterns know by a name: general categories, scripts, and a few properties
besides. In a name neither case nor blanks, underscores and hyphens count, nor an `is` in front.
-/

namespace FixturePlan.Text

/-! ### Names -/

/-- A name of a property in the form in which it is compared. -/
def propertyName (cs : List Char) : String :=
  let name (cs : List Char) : List Char :=
    (cs.filter fun c => isAscii c && c != ' ' && c != '_' && c != '-').map Char.toLower
  match cs with
  | a :: b :: rest =>
    if [a.toLower, b.toLower] == ['i', 's'] then
      -- alone, the letter would name another category
      if name rest == ['c'] then "isc" else String.ofList (name rest)
    else String.ofList (name cs)
  | _ => String.ofList (name cs)

/-- The names of the general categories and of groups of them, with their characters. -/
def categoryRuns : List (List String × List (List (Nat × Nat × Nat))) :=
  [(["lu", "uppercaseletter"], [uppercaseLetterRuns]),
   (["ll", "lowercaseletter"], [lowercaseLetterRuns]),
   (["lt", "titlecaseletter"], [titlecaseLetterRuns]),
   (["lc", "casedletter"], [uppercaseLetterRuns, lowercaseLetterRuns, titlecaseLetterRuns]),
   (["lm", "modifierletter"], [modifierLetterRuns]),
   (["lo", "otherletter"], [otherLetterRuns]),
   (["l", "letter"],
     [uppercaseLetterRuns, lowercaseLetterRuns, titlecaseLetterRuns, modifierLetterRuns,
      otherLetterRuns]),
   (["mn", "nonspacingmark"], [nonspacingMarkRuns]),
   (["mc", "spacingmark"], [spacingMarkRuns]),
   (["me", "enclosingmark"], [enclosingMarkRuns]),
   (["m", "mark", "combiningmark"], [nonspacingMarkRuns, spacingMarkRuns, enclosingMarkRuns]),
   (["nd", "decimalnumber", "digit"], [decimalNumberRuns]),
   (["nl", "letternumber"], [letterNumberRuns]),
   (["no", "othernumber"], [otherNumberRuns]),
   (["n", "number"], [decimalNumberRuns, letterNumberRuns, otherNumberRuns]),
   (["pc", "connectorpunctuation"], [connectorPunctuationRuns]),
   (["pd", "dashpunctuation"], [dashPunctuationRuns]),
   (["ps", "openpunctuation"], [openPunctuationRuns]),
   (["pe", "closepunctuation"], [closePunctuationRuns]),
   (["pi", "initialpunctuation"], [initialPunctuationRuns]),
   (["pf", "finalpunctuation"], [finalPunctuationRuns]),
   (["po", "otherpunctuation"], [otherPunctuationRuns]),
   (["p", "punctuation", "punct"],
     [connectorPunctuationRuns, dashPunctuationRuns, openPunctuationRuns, closePunctuationRuns,
      initialPunctuationRuns, finalPunctuationRuns, otherPunctuationRuns]),
   (["sm", "mathsymbol"], [mathSymbolRuns]),
   (["sc", "currencysymbol"], [currencySymbolRuns]),
   (["sk", "modifiersymbol"], [modifierSymbolRuns]),
   (["so", "othersymbol"], [otherSymbolRuns]),
   (["s", "symbol"], [mathSymbolRuns, currencySymbolRuns, modifierSymbolRuns, otherSymbolRuns]),
   (["zs", "spaceseparator"], [spaceSeparatorRuns]),
   (["zl", "lineseparator"], [lineSeparatorRuns]),
   (["zp", "paragraphseparator"], [paragraphSeparatorRuns]),
   (["z", "separator"], [spaceSeparatorRuns, lineSeparatorRuns, paragraphSeparatorRuns]),
   (["cc", "control", "cntrl"], [controlRuns]),
   (["cf", "format"], [formatRuns]),
   (["co", "privateuse"], [privateUseRuns])]

namespace CharSet

/-! ### Sets by name -/

def ofRuns (runs : List (Nat × Nat × Nat)) : CharSet :=
  normal ⟨runs.flatMap fun (first, last, step) =>
    if step == 1 then [(first, last)]
    else (List.range' first ((last - first) / step + 1) step).map fun n => (n, n)⟩

def ofCategories (names : List String) : CharSet :=
  ofRuns ((categoryRuns.filter fun c => names.any c.1.contains).flatMap (·.2.flatten))

/-- The characters that are assigned. -/
def assigned : CharSet := ofCategories ["l", "m", "n", "p", "s", "z", "cc", "cf", "co"]

def category? (name : String) : Option CharSet :=
  match name with
  | "any" => some all
  | "ascii" => some ascii
  | "assigned" => some assigned
  | "cn" | "unassigned" => some assigned.complement
  | "c" | "other" => some (ofCategories ["l", "m", "n", "p", "s", "z"]).complement
  | _ =>
    if categoryRuns.any (·.1.contains name) then some (ofCategories [name]) else none

def script? (name : String) : Option CharSet :=
  (scripts.find? (·.1.contains name)).map fun s => ⟨s.2⟩

def otherProperty? (name : String) : Option CharSet :=
  match name with
  | "alphabetic" | "alpha" =>
    some (diff ⟨(65, 90) :: (97, 122) :: alphabeticRanges⟩ ⟨recentRanges⟩)
  | "lowercase" | "lower" => some (diff (ofRuns ((97, 122, 1) :: lowercaseRuns)) ⟨recentRanges⟩)
  | "uppercase" | "upper" => some (diff (ofRuns ((65, 90, 1) :: uppercaseRuns)) ⟨recentRanges⟩)
  | "whitespace" | "wspace" | "space" => some blanks
  | _ => none

def named? (name : String) : Option CharSet :=
  otherProperty? name <|> category? name <|> script? name

def valued? (property value : String) : Option CharSet :=
  match property with
  | "generalcategory" | "gc" => category? value
  | "script" | "sc" => script? value
  | _ => none

/-- Cut a text at the first occurrence of a mark. -/
def cutAtMark? (mark : List Char) : List Char → Option (List Char × List Char)
  | [] => none
  | c :: rest =>
    if mark.isPrefixOf (c :: rest) then some ([], (c :: rest).drop mark.length)
    else (cutAtMark? mark rest).map fun (before, after) => (c :: before, after)

/-- The set that a text describes: a name, or a property and its value with a mark between them, which
makes no difference. -/
def ofProperty? (cs : List Char) : Option CharSet :=
  match [['!', '='], [':'], ['=']].findSome? (cutAtMark? · cs) with
  | some (property, value) => valued? (propertyName property) (propertyName value)
  | none => named? (propertyName cs)

end CharSet

end FixturePlan.Text
