import SchemaMutation.Pattern.Syntax
import SchemaMutation.Text.Characters
import SchemaMutation.Text.ScriptTable
import SchemaMutation.Text.SegmentationTable

/-!
# Properties in patterns

The set of characters that a property in a pattern stands for. Names are compared without regard to case, blanks,
hyphens and underscores, and may have `is` in front. A name alone may be that of a property, of a general category or
of a script, in this order.
-/

namespace SchemaMutation.Pattern

open Text (RangeSet NamedSets)

/-- A name as names are compared. -/
def looseName (name : String) : String :=
  let hasIs := match name.toList with
    | i :: s :: _ => (i == 'i' || i == 'I') && (s == 's' || s == 'S')
    | _ => false
  let chars := if hasIs then name.toList.drop 2 else name.toList
  let kept := chars.filter fun c => decide (c.toNat < 128) && !(c == ' ' || c == '_' || c == '-')
  let loose := String.ofList (kept.map Char.toLower)
  if hasIs && loose == "c" then "isc" else loose

def categoryGroups : List (List String × List String) := [
  (["c", "other"], ["cc", "cf", "co"]),
  (["l", "letter"], ["lu", "ll", "lt", "lm", "lo"]),
  (["lc", "casedletter"], ["lu", "ll", "lt"]),
  (["m", "mark", "combiningmark"], ["mc", "me", "mn"]),
  (["n", "number"], ["nd", "nl", "no"]),
  (["p", "punctuation", "punct"], ["pc", "pd", "pe", "pf", "pi", "po", "ps"]),
  (["s", "symbol"], ["sc", "sk", "sm", "so"]),
  (["z", "separator"], ["zl", "zp", "zs"])]

def categorySet? (name : String) : Option RangeSet :=
  if name = "any" then some .chars
  else if name = "assigned" then some Text.unassigned.complement
  else if name = "ascii" then some (.range 0 0x7F)
  else if name = "cn" ∨ name = "unassigned" then some Text.unassigned
  else match categoryGroups.find? (·.1.contains name) with
    | some (short :: _, parts) =>
      let set := Text.categories parts
      some (if short = "c" then set.union Text.unassigned else set)
    | _ => NamedSets.find? Text.categoryTable name

def scriptSet? (name : String) : Option RangeSet := NamedSets.find? Text.scriptTable name

def scriptExtensionSet? (name : String) : Option RangeSet :=
  (NamedSets.find? Text.scriptExtensionTable name).or (scriptSet? name)

/-- The characters of an edition of the standard and of those before it. -/
def ageSet? (name : String) : Option RangeSet :=
  let (older, rest) := Text.ageTable.span fun row => !row.1.contains name
  rest.head?.map fun row => RangeSet.ofRanges ((row :: older).flatMap fun r => (RangeSet.ofTable r.2).ranges)

/-- The set for a name alone. Three short names of categories are those of properties too. -/
def namedSet? (name : String) : Option RangeSet :=
  let name := looseName name
  let property := if ["cf", "sc", "lc"].contains name then none else NamedSets.find? Text.propertyTable name
  ((property.or (categorySet? name))).or (scriptSet? name)

def valueSet? (name value : String) : Option RangeSet :=
  let name := looseName name
  let value := looseName value
  let named (names : List String) : Bool := names.contains name
  if named ["gc", "generalcategory"] then categorySet? value
  else if named ["sc", "script"] then scriptSet? value
  else if named ["scx", "scriptextensions"] then scriptExtensionSet? value
  else if named ["age"] then ageSet? value
  else if named ["gcb", "graphemeclusterbreak"] then NamedSets.find? Text.graphemeBreakTable value
  else if named ["wb", "wordbreak"] then NamedSets.find? Text.wordBreakTable value
  else if named ["sb", "sentencebreak"] then NamedSets.find? Text.sentenceBreakTable value
  else none

def PropertyQuery.set? : PropertyQuery → Option RangeSet
  | .name n => namedSet? n
  | .value n v => valueSet? n v

end SchemaMutation.Pattern
