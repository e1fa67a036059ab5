import Waterworks.Unicode.Age
import Waterworks.Unicode.Property
import Waterworks.Unicode.Script
import Waterworks.Unicode.Segmentation

namespace Waterworks.Unicode

/-!
# Looking up a property

* `Query` — a property as a pattern names it: by one name, or by a name and a value.
* `Query.codePoints?` — the set that a query names, if it names one.

One name is looked up among the binary properties, the general categories and the scripts, in this
order, except that `cf`, `sc` and `lc` are general categories.
-/

/-- What names a set of code points. -/
inductive Query where
  | named (name : String)
  | valued (property value : String)

/-- The property of a query with a value. -/
inductive ValuedProperty where
  | category | script | scriptExtensions | age | graphemeBreak | wordBreak | sentenceBreak

namespace ValuedProperty

/-- The properties that take values, with their names. -/
def table : List (List String × ValuedProperty) := [
  (["General_Category", "gc"], category),
  (["Script", "sc"], script),
  (["Script_Extensions", "scx"], scriptExtensions),
  (["Age"], age),
  (["Grapheme_Cluster_Break", "GCB"], graphemeBreak),
  (["Word_Break", "WB"], wordBreak),
  (["Sentence_Break", "SB"], sentenceBreak)]

/-- The property of a name, which may be spelt loosely. -/
def find? (name : String) : Option ValuedProperty :=
  (table.find? fun (names, _) => names.any (normalizeName · == normalizeName name)).map (·.2)

/-- The set of the characters for which the property has a value. -/
def members? (value : String) : ValuedProperty → Option SetExpr
  | category => (NamedSet.find? Category.table value).map (·.members)
  | script => (NamedSet.find? Script.table value).map (·.members)
  | scriptExtensions => (NamedSet.find? Script.extensionTable value).map (·.members)
  | age => Age.upTo? (normalizeName value)
  | graphemeBreak => (NamedSet.find? Segmentation.grapheme value).map (·.members)
  | wordBreak => (NamedSet.find? Segmentation.word value).map (·.members)
  | sentenceBreak => (NamedSet.find? Segmentation.sentence value).map (·.members)

end ValuedProperty

namespace Query

/-- The abbreviations of general categories that would also abbreviate other properties. -/
def categoriesFirst : List String := ["cf", "sc", "lc"]

/-- The set that a query asks for. A name alone may be that of a property, of a category or of a
script, in this order but for a few names that are categories first. -/
def members? : Query → Option SetExpr
  | named name =>
    let property :=
      if categoriesFirst.contains (normalizeName name) then none
      else NamedSet.find? Property.table name
    let found :=
      property <|> NamedSet.find? Category.table name <|> NamedSet.find? Script.table name
    found.map (·.members)
  | valued property value => do
    let property ← ValuedProperty.find? property
    property.members? value

/-- The code points that a query asks for. -/
def codePoints? (q : Query) : Option CodePoints :=
  q.members?.map (·.codePoints)

end Query

end Waterworks.Unicode
