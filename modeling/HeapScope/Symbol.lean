import HeapScope.Error

/-!
# Symbols

A linker symbol of Kotlin/Native says by the start of its name what it stands for; the rest is the
qualified name that is shown. Some linkers put an underscore in front of every name.

A symbol table is searched by name, by address and by a part of a name.
-/

namespace HeapScope

/-- What a symbol stands for. -/
inductive SymbolKind where
  | function | typeInfo | classRef | global | native
deriving DecidableEq, Repr

namespace SymbolKind

/-- The starts of linker names and the kinds they mark. -/
def markers : List (String × SymbolKind) :=
  [("kfun:", function), ("ktype:", typeInfo), ("kclass:", classRef), ("kvar:", global)]

/-- The name of a kind. -/
def name : SymbolKind → String
  | function => "Function"
  | typeInfo => "TypeInfo"
  | classRef => "Class"
  | global => "Variable"
  | native => "Native"

end SymbolKind

/-- What is left of a list behind a given start. -/
def dropMarker : List Char → List Char → Option (List Char)
  | [], s => some s
  | m :: ms, c :: s => if m = c then dropMarker ms s else none
  | _ :: _, [] => none

/-- A linker name without an underscore in front. -/
def dropUnderscore : List Char → List Char
  | '_' :: r => r
  | s => s

/-- A qualified name as it is shown, with a dot for each hash that the linker name has. -/
def shownName (written : List Char) : String :=
  String.ofList (written.map fun c => if c = '#' then '.' else c)

/-- Splits a linker name into its kind and the name that is shown. -/
def readSymbolName (name : String) : SymbolKind × String :=
  let bare := dropUnderscore name.toList
  let marked := SymbolKind.markers.findSome? fun (marker, kind) =>
    (dropMarker marker.toList bare).map fun rest => (kind, shownName rest)
  marked.getD (.native, String.ofList bare)

/-- A linker symbol. -/
structure Symbol where
  name : String
  address : UInt64
  size : UInt64 := 0
deriving DecidableEq, Repr

namespace Symbol

/-- What the symbol stands for. -/
def kind (s : Symbol) : SymbolKind := (readSymbolName s.name).1

/-- The name that is shown. -/
def displayName (s : Symbol) : String := (readSymbolName s.name).2

end Symbol

/-- The linker name of a type's information. -/
def typeInfoSymbolName (typeName : String) : String := "ktype:" ++ typeName

/-! ## Searching by name -/

/-- Symbols under the names that they are looked up by. Of two entries for one name the front one
counts. -/
abbrev NameIndex := List (String × Symbol)

namespace NameIndex

/-- Enters a symbol under a name, in place of what was there. -/
def put (index : NameIndex) (name : String) (s : Symbol) : NameIndex := (name, s) :: index

/-- Enters a symbol under a name that is still vacant. -/
def putIfVacant (index : NameIndex) (name : String) (s : Symbol) : NameIndex :=
  if (index.lookup name).isSome then index else index.put name s

/-- Enters a symbol under its linker name and, where that has an underscore in front, also under the
name without it, if vacant. -/
def enter (index : NameIndex) (s : Symbol) : NameIndex :=
  let entered := index.put s.name s
  match dropMarker ['_'] s.name.toList with
  | some bare => entered.putIfVacant (String.ofList bare) s
  | none => entered

end NameIndex

/-! ## Searching by address -/

/-- What a search among `n` sorted entries ends with: the entry that was found, or the number of
those ahead of the place where it is missing. -/
inductive SearchResult (n : Nat) where
  | found (i : Fin n)
  | missing (ahead : Fin (n + 1))

/-- Halves a range of entries until one is left. The range that is kept starts at its middle if the
entry there passes a test. -/
def bisect {n : Nat} (passes : Fin n → Bool) (start size : Nat)
    (inside : 0 < size ∧ start + size ≤ n) : Fin n :=
  if more : 1 < size then
    let middle : Fin n := ⟨start + size / 2, by omega⟩
    if passes middle then bisect passes middle (size - size / 2) ⟨by omega, by simp [middle]; omega⟩
    else bisect passes start (size - size / 2) (by omega)
  else ⟨start, by omega⟩
termination_by size

/-- Searches sorted entries for an address. -/
def searchSorted {n : Nat} (addressAt : Fin n → UInt64) (address : UInt64) : SearchResult n :=
  if nonempty : 0 < n then
    let i := bisect (fun k => addressAt k ≤ address) 0 n ⟨nonempty, by omega⟩
    if addressAt i = address then .found i
    else .missing (if addressAt i < address then i.succ else i.castSucc)
  else .missing 0

/-! ## Symbol tables -/

/-- The symbols of an image, as they were given and in stable order of their addresses. -/
structure SymbolTable where
  given : List Symbol
  relocatable : Bool := false

namespace SymbolTable

/-- The symbols in ascending order of their addresses; equal addresses keep the given order. -/
def byAddress (t : SymbolTable) : List Symbol :=
  t.given.mergeSort fun a b => a.address ≤ b.address

/-- The index that the symbols make by name, entered as they were given. -/
def byName (t : SymbolTable) : NameIndex := t.given.foldl NameIndex.enter []

/-- The symbol of a name. -/
def lookup? (t : SymbolTable) (name : String) : Option Symbol := t.byName.lookup name

/-- The address of a name. -/
def resolve (t : SymbolTable) (name : String) : Option UInt64 :=
  (t.lookup? name).map (·.address)

/-- The symbol that an address belongs to: the one found at the address, or else the one ahead of
it if that has no size or reaches beyond the address. -/
def reverseResolve (t : SymbolTable) (address : UInt64) : Except Crash (Option Symbol) :=
  let symbols := t.byAddress.toArray
  match searchSorted (fun i : Fin symbols.size => symbols[i].address) address with
  | .found i => .ok (some symbols[i])
  | .missing ⟨0, _⟩ => .ok none
  | .missing ⟨i + 1, inside⟩ =>
    let s := symbols[i]
    if s.size = 0 then .ok (some s)
    else (addExact s.address s.size).map fun limit => if address < limit then some s else none

/-- The symbols of type information, by address. -/
def typeInfos (t : SymbolTable) : List Symbol :=
  t.byAddress.filter fun s => s.kind == .typeInfo

/-- Whether a text occurs in another. -/
def isInfix (part : List Char) : List Char → Bool
  | [] => part.isEmpty
  | c :: s => (dropMarker part (c :: s)).isSome || isInfix part s

/-- Keeps the first of each run of symbols with one linker name. -/
def dropRepeats : List Symbol → List Symbol
  | a :: b :: r => if a.name == b.name then dropRepeats (a :: r) else a :: dropRepeats (b :: r)
  | s => s
termination_by s => s.length

/-- The symbols whose linker or shown name holds a text, by address. Of neighbours with one linker
name the first is kept. -/
def find (t : SymbolTable) (pattern : String) : List Symbol :=
  dropRepeats <| t.byAddress.filter fun s =>
    isInfix pattern.toList s.name.toList || isInfix pattern.toList s.displayName.toList

end SymbolTable

end HeapScope
