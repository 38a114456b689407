import HeapScope.Text.Glyphless
import HeapScope.Text.Quoted

/-!
# Values as they are shown to developers

A record is shown by its name and, between braces, its fields; a value with a single part by its
name and the part between parentheses; a text between quotes.
-/

namespace HeapScope.Text

/-- A text between quotes, with what cannot be seen spelt out. -/
def quoted (s : String) : String := String.ofList (Quoted.quote isGlyphless s.toList)

/-- A record with its fields. -/
def dumpRecord (name : String) (fields : List (String × String)) : String :=
  name ++ " \x7b " ++ ", ".intercalate (fields.map fun f => f.1 ++ ": " ++ f.2) ++ " \x7d"

/-- A value with one part. -/
def dumpPart (name part : String) : String := name ++ "(" ++ part ++ ")"

/-- A list. -/
def dumpList (items : List String) : String := "[" ++ ", ".intercalate items ++ "]"

/-- A truth value. -/
def dumpBool (b : Bool) : String := if b then "true" else "false"

end HeapScope.Text
