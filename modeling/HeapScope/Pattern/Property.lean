import HeapScope.Pattern.CharSet
import HeapScope.Unicode.Age
import HeapScope.Unicode.Script
import HeapScope.Unicode.Segmentation

/-!
# Classes by property

A class is named by a property, a general category or a script, or by a property and a value of it.
Case, blanks, hyphens and underscores in a name do not matter, nor does `is` in front of it.
-/

namespace HeapScope.Pattern

/-- A name as it is compared: ASCII letters in lower case, without the characters that do not
matter. -/
def loosen (s : List Char) : List Char :=
  (s.filter fun c => c.toNat < 128 && c ≠ ' ' && c ≠ '_' && c ≠ '-').map Char.toLower

/-- A name as it is compared, without `is` in front. The short name of the comments of a standard is
no such name. -/
def looseName (s : List Char) : List Char :=
  match s with
  | i :: x :: r =>
    if i.toLower = 'i' ∧ x.toLower = 's' then
      let name := loosen r
      if name = ['c'] then ['i', 's', 'c'] else name
    else loosen s
  | _ => loosen s

/-- Whether a loose name is one of some names. -/
def isNamed (name : List Char) (names : List String) : Bool :=
  names.any fun n => loosen n.toList == name

namespace CharSet

/-- The names of the sets that are no category but are looked up among them. -/
def wideSets : List (String × CharSet) :=
  [("any", all), ("ascii", ofPairs [(Char.ofNat 0, '\x7f')]), ("assigned", compl (category "Cn"))]

/-- The general category, or group of them, of a loose name. -/
def ofCategoryName (name : List Char) : Option CharSet :=
  (wideSets.lookup (String.ofList name)).or <|
    (Unicode.categoryNames.find? fun e => isNamed name e.1).map fun e => unions (e.2.map category)

/-- The characters in some rows of a table. -/
def ofRows (rows : List (List String × String)) : CharSet :=
  unions (rows.map fun e => ranges (.ofText e.2))

/-- The characters in the row of a table that has a loose name. -/
def ofTable (table : List (List String × String)) (name : List Char) : Option CharSet :=
  (table.find? fun e => isNamed name e.1).map fun e => ranges (.ofText e.2)

/-- The characters that are used with the script of a loose name: those of the script, unless they
are used with other scripts alone, and those of other scripts that are used with it. -/
def ofExtensionName (name : List Char) : Option CharSet :=
  (Unicode.scriptRanges.find? fun e => isNamed name e.1).map fun e =>
    let shared := Unicode.scriptExtensionRanges
    union (diff (ranges (.ofText e.2)) (ofRows shared))
      (ofRows (shared.filter fun x => x.1.any e.1.contains))

/-- The characters that were assigned in the version of a loose name or in one before it. -/
def ofVersion (name : List Char) : Option CharSet :=
  (Unicode.ageRanges.findIdx? fun e => isNamed name e.1).map fun i =>
    ofRows (Unicode.ageRanges.take (i + 1))

/-- The class that a single name stands for. -/
def ofClassName (s : List Char) : Option CharSet :=
  let name := looseName s
  (ofTable Unicode.propertyRanges name).or
    ((ofCategoryName name).or (ofTable Unicode.scriptRanges name))

/-- The names of each property that has values, and the characters that have a value. -/
def valuedProperties : List (List String × (List Char → Option CharSet)) :=
  [(["General_Category", "gc"], ofCategoryName),
   (["Script", "sc"], ofTable Unicode.scriptRanges),
   (["Script_Extensions", "scx"], ofExtensionName),
   (["Age"], ofVersion),
   (["Grapheme_Cluster_Break", "GCB"], ofTable Unicode.graphemeBreakRanges),
   (["Word_Break", "WB"], ofTable Unicode.wordBreakRanges),
   (["Sentence_Break", "SB"], ofTable Unicode.sentenceBreakRanges)]

/-- The class of the characters for which a property has a value. -/
def ofClassValue (property value : List Char) : Option CharSet :=
  let name := looseName property
  (valuedProperties.find? fun e => isNamed name e.1).bind fun e => e.2 (looseName value)

end CharSet

end HeapScope.Pattern
