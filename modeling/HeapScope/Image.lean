import HeapScope.Layout
import HeapScope.Symbol

/-!
# Loaded images

An image is a file that a process has loaded: its symbols, the class layouts of its debug
information, and the bias between the addresses in the file and those in memory. The image table
holds one image for each name, in load order, and every lookup takes the first image that has an
answer.
-/

namespace HeapScope

/-- A loaded image. Of two layouts for one class the first counts. -/
structure Image where
  name : String
  symbols : SymbolTable
  layouts : List ClassLayout := []
  bias : UInt64 := 0

namespace Image

/-- The layout of a class. -/
def layoutOf (i : Image) (className : String) : Option ClassLayout :=
  i.layouts.find? fun l => l.name == className

/-- A type as it is recorded for the image. -/
def record (i : Image) (typeName : String) (tag : UInt64) : TypeRecord :=
  ⟨typeName, tag, i.layoutOf typeName⟩

/-- The type of a tag. Where several lie at one address, the one with the last symbol. -/
def typeByTag (i : Image) (tag : UInt64) : Option TypeRecord :=
  (i.symbols.typeInfos.reverse.find? fun s => s.address + i.bias == tag).map fun s =>
    i.record s.displayName tag

/-- The type of a name. Where several have one name, the one with the last symbol. -/
def typeByName (i : Image) (typeName : String) : Option TypeRecord :=
  (i.symbols.typeInfos.reverse.find? fun s => s.displayName == typeName).map fun s =>
    i.record typeName (s.address + i.bias)

/-- Where a symbol lies in memory. -/
def resolve (i : Image) (symbol : String) : Option UInt64 :=
  (i.symbols.resolve symbol).map (· + i.bias)

end Image

/-- A symbol found in a loaded image. -/
structure SymbolLocation where
  image : String
  address : UInt64
deriving DecidableEq, Repr

/-- The loaded images, in load order. No two have one name. -/
@[ext]
structure ImageTable where
  images : List Image := []
  distinct : images.Pairwise fun i j => i.name ≠ j.name := by exact .nil

namespace ImageTable

/-- Whether an image of a name is loaded. -/
def contains (t : ImageTable) (name : String) : Bool :=
  t.images.any fun i => i.name == name

/-- The images but for the one of a name. -/
def without (t : ImageTable) (name : String) : ImageTable :=
  ⟨t.images.filter fun i => i.name != name, t.distinct.filter _⟩

/-- Takes the image of a name out, and tells whether there was one. -/
def remove (t : ImageTable) (name : String) : Bool × ImageTable :=
  (t.images.length != (t.without name).images.length, t.without name)

/-- Adds an image at the end, in place of one of the same name. -/
def add (t : ImageTable) (i : Image) : ImageTable where
  images := (t.without i.name).images ++ [i]
  distinct := by
    refine List.pairwise_append.2 ⟨(t.without i.name).distinct, List.pairwise_singleton _ _, ?_⟩
    intro j hj k hk
    rw [List.mem_singleton.1 hk]
    exact bne_iff_ne.1 (List.mem_filter.1 hj).2

/-- The type of a tag. -/
def typeByTag (t : ImageTable) (tag : UInt64) : Option TypeRecord :=
  t.images.findSome? fun i => i.typeByTag tag

/-- The type of a name. -/
def typeByName (t : ImageTable) (name : String) : Option TypeRecord :=
  t.images.findSome? fun i => i.typeByName name

/-- The types of the loaded images. -/
def metadata (t : ImageTable) : Metadata := ⟨t.typeByTag, t.typeByName⟩

/-- Where a symbol lies in memory. -/
def findSymbol (t : ImageTable) (symbol : String) : Option SymbolLocation :=
  t.images.findSome? fun i => (i.resolve symbol).map fun a => ⟨i.name, a⟩

end ImageTable

end HeapScope
