import FixturePlan.Number.Digits
import FixturePlan.Text.LetterCase
import FixturePlan.Text.Pattern.Machine
import FixturePlan.Text.Pattern.Parser

/-!
# Singular forms

The singular of an English noun. Words that are the same in both numbers and a few irregular plurals
are listed; all others go through a series of rules, the most special first.

A rule is a pattern whose first group is what is kept of the word, and an ending, in which `$2` stands for
the second group. Only the matched part of the word counts: what stands in front of a match is lost with
the ending.
-/

namespace FixturePlan.Text

/-- The words that have no other singular. -/
def invariableWords : List String :=
  ["accommodation", "adulthood", "advertising", "advice", "aggression", "aid", "air", "aircraft",
   "alcohol", "anger", "applause", "arithmetic", "assistance", "athletics", "bacon", "baggage",
   "beef", "biology", "blood", "botany", "bread", "butter", "carbon", "cardboard", "cash",
   "chalk", "chaos", "chess", "crossroads", "countryside", "dancing", "deer", "dignity", "dirt",
   "dust", "economics", "education", "electricity", "engineering", "enjoyment", "envy",
   "equipment", "ethics", "evidence", "evolution", "fame", "fiction", "flour", "flu", "food",
   "fuel", "fun", "furniture", "gallows", "garbage", "garlic", "genetics", "gold", "golf",
   "gossip", "grammar", "gratitude", "grief", "guilt", "gymnastics", "happiness", "hardware",
   "harm", "hate", "hatred", "health", "heat", "help", "homework", "honesty", "honey",
   "hospitality", "housework", "humour", "hunger", "hydrogen", "ice", "importance", "inflation",
   "information", "innocence", "iron", "irony", "jam", "jewelry", "judo", "karate", "knowledge",
   "lack", "laughter", "lava", "leather", "leisure", "lightning", "linguine", "linguini",
   "linguistics", "literature", "litter", "livestock", "logic", "loneliness", "luck", "luggage",
   "macaroni", "machinery", "magic", "management", "mankind", "marble", "mathematics",
   "mayonnaise", "measles", "methane", "milk", "money", "mud", "music", "mumps", "nature",
   "news", "nitrogen", "nonsense", "nurture", "nutrition", "obedience", "obesity", "oxygen",
   "pasta", "patience", "physics", "poetry", "pollution", "poverty", "pride", "psychology",
   "publicity", "punctuation", "quartz", "racism", "relaxation", "reliability", "research",
   "respect", "revenge", "rice", "rubbish", "rum", "safety", "scenery", "seafood", "seaside",
   "series", "shame", "sheep", "shopping", "sleep", "smoke", "smoking", "snow", "soap",
   "software", "soil", "spaghetti", "species", "steam", "stuff", "stupidity", "sunshine",
   "symmetry", "tennis", "thirst", "thunder", "timber", "traffic", "transportation", "trust",
   "underwear", "unemployment", "unity", "validity", "veal", "vegetation", "vegetarianism",
   "vengeance", "violence", "vitality", "warmth", "wealth", "weather", "welfare", "wheat",
   "wildlife", "wisdom", "yoga", "zinc", "zoology"]

/-- Plurals with a singular of their own. -/
def listedSingulars : List (String × String) :=
  [("oxen", "ox"), ("boxes", "box"), ("men", "man"), ("women", "woman"), ("dice", "die"),
   ("yeses", "yes"), ("feet", "foot"), ("eaves", "eave"), ("geese", "goose"), ("teeth", "tooth"),
   ("quizzes", "quiz")]

/-- The rules for plurals, the most special first. -/
def singularRules : List (String × String) :=
  [(r"(database)s$", ""),
   (r"(quiz)zes$", ""),
   (r"(matr)ices$", "ix"),
   (r"(vert|ind)ices$", "ex"),
   (r"^(ox)en", ""),
   (r"(alias|status)(es)?$", ""),
   (r"(octop|vir)(us|i)$", "us"),
   (r"^(a)x[ie]s$", "xis"),
   (r"(cris|test)(is|es)$", "is"),
   (r"(shoe)s$", ""),
   (r"(bus)(es)?$", ""),
   (r"(m|l)ice$", "ouse"),
   (r"(\w*)(x|ch|ss|sh)es$", "$2"),
   (r"(m)ovies$", "ovie"),
   (r"(s)eries$", "eries"),
   (r"(\w*([^aeiouy]|qu))ies$", "y"),
   (r"(\w*)([lr])ves$", "f"),
   (r"(\w*)(tive)s$", ""),
   (r"(\w*)(hive)s$", ""),
   (r"(\w*)([^f])ves$", "fe"),
   (r"(^analy)(sis|ses)$", "sis"),
   (r"((a)naly|(b)a|(d)iagno|(p)arenthe|(p)rogno|(s)ynop|(t)he)(sis|ses)$", "sis"),
   (r"(\w*)([ti])a$", "um"),
   (r"(\w*)(o)es$", ""),
   (r"(n)ews$", "ews"),
   (r"(\w*)(ss)$", "$2"),
   (r"(\w*)s$", "")]

def singularPatterns : List (Pattern × String) :=
  singularRules.filterMap fun (text, ending) => (Pattern.parse? text).map (·, ending)

/-! The kept text and the ending together are a template, in which a dollar sign in front of a name stands
for the text of a group. Where the kept text ends in a dollar sign, the ending becomes such a name. -/

def isGroupLetter (c : Char) : Bool := c.isAlphanum || c == '_'

/-- The name of a group at the beginning of a text, as long as it can be or in braces, and what comes
behind it. -/
def groupName? : List Char → Option (List Char × List Char)
  | '{' :: rest =>
    match rest.dropWhile (· != '}') with
    | [] => none
    | _ :: behind => some (rest.takeWhile (· != '}'), behind)
  | cs =>
    if (cs.takeWhile isGroupLetter).isEmpty then none
    else some (cs.takeWhile isGroupLetter, cs.dropWhile isGroupLetter)

theorem length_le_of_groupName? {cs name behind : List Char} (h : groupName? cs = some (name, behind)) :
    behind.length ≤ cs.length := by
  have hdrop : ∀ (p : Char → Bool) (cs : List Char), (cs.dropWhile p).length ≤ cs.length :=
    fun p cs => (List.dropWhile_sublist p).length_le
  rw [groupName?.eq_def] at h
  split at h
  · next rest =>
    have hle := hdrop (· != '}') rest
    split at h
    · cases h
    · next heq =>
      cases h
      rw [heq, List.length_cons] at hle
      rw [List.length_cons]
      omega
  · split at h
    · cases h
    · cases h
      exact hdrop _ _

/-- The text that a name stands for. Groups are known by numbers, and every other name stands for
nothing. -/
def groupText (found : Match) (name : List Char) : List Char :=
  (((Number.digits? 10 name).bind found.group?).getD "").toList

/-- Put the texts of groups into a template. Two dollar signs stand for one, and so does one that no name
follows. -/
def expandTemplate (found : Match) : List Char → List Char
  | [] => []
  | '$' :: '$' :: rest => '$' :: expandTemplate found rest
  | '$' :: rest =>
    match _hname : groupName? rest with
    | some (name, behind) => groupText found name ++ expandTemplate found behind
    | none => '$' :: expandTemplate found rest
  | c :: rest => c :: expandTemplate found rest
termination_by cs => cs.length
decreasing_by
  all_goals simp only [List.length_cons]
  · omega
  · have hle := length_le_of_groupName? _hname
    omega
  · omega
  · omega

def applyRule (word : String) : Pattern × String → Option String
  | (pattern, ending) => do
    let found ← pattern.find? word
    let kept ← found.group? 1
    -- one template: what was kept is expanded together with the ending
    return String.ofList (expandTemplate found (kept ++ ending).toList)

def regularSingular (word : String) : String :=
  if invariableWords.contains word then word
  else match listedSingulars.lookup word with
    | some singular => singular
    | none => (singularPatterns.findSome? (applyRule word)).getD word

/-! ### Names of tables -/

/-- Irregular nouns of database schemas, each with its plural. -/
def irregularNouns : List (String × String) :=
  [("person", "people"), ("child", "children"), ("man", "men"), ("woman", "women"),
   ("analysis", "analyses"), ("criterion", "criteria"), ("datum", "data"), ("medium", "media"),
   ("index", "indices"), ("matrix", "matrices"), ("vertex", "vertices"), ("status", "statuses")]

/-- The singular of the last word of a name whose words are joined by underscores. An irregular noun
is recognised in either number and in any case, and written in lower case. -/
def singular (name : String) : String :=
  let last := (name.toList.reverse.takeWhile (· != '_')).reverse
  let front := String.ofList (name.toList.take (name.toList.length - last.length))
  let word := String.ofList last
  let lower := lowercase word
  match irregularNouns.find? fun (one, many) => lower == many || lower == one with
  | some (one, _) => front ++ one
  | none => front ++ regularSingular word

end FixturePlan.Text
