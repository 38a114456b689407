import HeapScope.Text.Dump

/-!
# Limits of formatting
-/

namespace HeapScope

/-- How much of a value a summary shows: the 16-bit units of a string, the elements of an array, and
the depth to which arrays inside arrays are shown. -/
structure FormatterConfig where
  maxStringUnits : Nat := 1024
  maxArrayPreview : Nat := 16
  maxDepth : Nat := 3
deriving DecidableEq, Repr

/-- The limits as they are shown to developers. -/
def FormatterConfig.dump (c : FormatterConfig) : String :=
  Text.dumpRecord "FormatterConfig"
    [("max_string_units", Text.decimal c.maxStringUnits),
     ("max_array_preview", Text.decimal c.maxArrayPreview),
     ("max_depth", Text.decimal c.maxDepth)]

end HeapScope
