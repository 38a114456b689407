import HeapScope.Text.Numeral

/-!
# Languages

A debugger names the language of a piece of code by a 16-bit tag. A few tags have a name; the
language that this library serves is Kotlin.
-/

namespace HeapScope

/-- A language by its tag. -/
inductive Language where
  | c | cPlusPlus | objC | rust | swift | kotlin
  | other (tag : UInt16)
deriving DecidableEq, Repr

namespace Language

/-- The languages with a name: tag, language and name. -/
def named : List (UInt16 × Language × String) :=
  [(0x02, c, "C"), (0x04, cPlusPlus, "CPlusPlus"), (0x10, objC, "ObjC"), (0x1c, rust, "Rust"),
   (0x1e, swift, "Swift"), (0x26, kotlin, "Kotlin")]

/-- The language of a tag. -/
def ofTag (tag : UInt16) : Language :=
  match named.lookup tag with
  | some (language, _) => language
  | none => other tag

/-- The tag of a language. -/
def tag : Language → UInt16
  | c => 0x02
  | cPlusPlus => 0x04
  | objC => 0x10
  | rust => 0x1c
  | swift => 0x1e
  | kotlin => 0x26
  | other tag => tag

/-- A language as it is written: its name, or its tag. -/
def text : Language → String
  | c => "C"
  | cPlusPlus => "CPlusPlus"
  | objC => "ObjC"
  | rust => "Rust"
  | swift => "Swift"
  | kotlin => "Kotlin"
  | other tag => "language " ++ Text.hex tag.toUInt64

/-- Whether this library serves a language. -/
def isServed (l : Language) : Bool := l == kotlin

end Language

end HeapScope
