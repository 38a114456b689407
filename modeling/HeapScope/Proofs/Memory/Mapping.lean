import HeapScope.Memory.Mapping
import HeapScope.Proofs.Text.Numeral
import HeapScope.Proofs.Text.Words
import Mathlib.Data.List.TakeWhile

/-!
# Reading the lines of mappings

A line of mappings holds numbers, a word of permissions, and at its end the name of what is mapped,
each behind a blank. The name is the only part that may hold blanks of its own, and nothing marks
where it ends but the end of the line. The reader takes the line apart into words, so all else is
read back as it was written, while of a path with blanks only the part ahead of the first one is
read.
-/

namespace HeapScope

/-- What is listed of a mapping. Device and inode are words that are not looked into. The name is
the path of a file, a name in brackets, or empty. -/
structure Listing where
  start : UInt64
  stop : UInt64
  readable : Bool
  writable : Bool
  executable : Bool
  shared : Bool
  offset : UInt64
  device : String
  inode : String
  pathname : String
  device_isWord : Text.IsWord device.toList := by decide
  inode_isWord : Text.IsWord inode.toList := by decide

namespace Listing

/-- The two ends of the range, joined by a hyphen. -/
def range (l : Listing) : List Char :=
  Text.padHex 8 l.start.toNat ++ '-' :: Text.padHex 8 l.stop.toNat

/-- A letter for each permission, or a hyphen, and one for the kind of mapping. -/
def permissions (l : Listing) : List Char :=
  [if l.readable then 'r' else '-', if l.writable then 'w' else '-',
    if l.executable then 'x' else '-', if l.shared then 's' else 'p']

/-- The line of a mapping, with further spaces in front of the name to put it in a column. -/
def line (l : Listing) (gap : Nat) : String :=
  String.ofList (l.range ++ ' ' :: (l.permissions ++ ' ' :: (Text.padHex 8 l.offset.toNat ++
    ' ' :: (l.device.toList ++ ' ' :: (l.inode.toList ++ ' ' ::
      (List.replicate gap ' ' ++ l.pathname.toList))))))

/-- The mapping that is listed, with a given path. -/
def mapping (l : Listing) (path : Option String) : Mapping where
  start := l.start
  stop := l.stop
  readable := l.readable
  writable := l.writable
  executable := l.executable
  offset := l.offset
  path := path

variable (l : Listing) (gap : Nat)

/-! ## The words of a line -/

/-- No hexadecimal digit is blank. -/
theorem isBlank_of_mem_padHex {width n : Nat} {c : Char} (h : c ∈ Text.padHex width n) :
    Text.isBlank c = false := by
  obtain ⟨d, small, rfl⟩ := Text.exists_of_mem_padHex h
  have all : ∀ d < 16, Text.isBlank (Text.digitChar d) = false := by decide
  exact all d small

/-- A padded number is one word. -/
theorem isWord_padHex (width n : Nat) : Text.IsWord (Text.padHex width n) :=
  ⟨Text.padHex_ne_nil width n, fun _ => isBlank_of_mem_padHex⟩

/-- The range of a line is one word. -/
theorem isWord_range : Text.IsWord l.range := by
  refine ⟨by simp [range], fun c hc => ?_⟩
  rcases List.mem_append.1 hc with start | stop
  · exact isBlank_of_mem_padHex start
  · rcases List.mem_cons.1 stop with rfl | stop
    · decide
    · exact isBlank_of_mem_padHex stop

/-- The permissions of a line are one word. -/
theorem isWord_permissions : Text.IsWord l.permissions := by
  rw [permissions]
  cases l.readable <;> cases l.writable <;> cases l.executable <;> cases l.shared <;> decide

/-- The words of a line are its five columns and the words of the name. -/
theorem words_line :
    Text.words (l.line gap).toList =
      l.range :: l.permissions :: Text.padHex 8 l.offset.toNat :: l.device.toList ::
        l.inode.toList :: Text.words l.pathname.toList := by
  have blank : Text.isBlank ' ' = true := by decide
  rw [line, String.toList_ofList, Text.words_word_append l.isWord_range blank,
    Text.words_word_append l.isWord_permissions blank,
    Text.words_word_append (isWord_padHex 8 _) blank,
    Text.words_word_append l.device_isWord blank, Text.words_word_append l.inode_isWord blank,
    Text.words_replicate_append blank]

/-! ## The columns of a line -/

/-- A range is split at its hyphen, as no number holds one. -/
theorem splitRange_range :
    Mapping.splitRange l.range =
      some (Text.padHex 8 l.start.toNat, Text.padHex 8 l.stop.toNat) := by
  have no_hyphen := Text.not_mem_padHex (c := '-') (by decide) 8 l.start.toNat
  have passes : ∀ c ∈ Text.padHex 8 l.start.toNat, decide (c ≠ '-') = true := fun c hc =>
    decide_eq_true fun same => no_hyphen (same ▸ hc)
  rw [Mapping.splitRange, range, List.dropWhile_append_of_pos passes,
    List.takeWhile_append_of_pos passes]
  simp

/-- The permissions are read back letter by letter. -/
theorem flags_permissions :
    let flags := l.permissions.flatMap String.utf8EncodeChar
    (flags[0]? == some 0x72) = l.readable ∧ (flags[1]? == some 0x77) = l.writable ∧
      (flags[2]? == some 0x78) = l.executable := by
  rw [permissions]
  cases l.readable <;> cases l.writable <;> cases l.executable <;> cases l.shared <;> decide

/-- The path that a line is read with: the first word of the name, if it is absolute. -/
def readPath : Option String :=
  match (Text.words l.pathname.toList).head? with
  | some ('/' :: r) => some (String.ofList ('/' :: r))
  | _ => none

/-- A line is read as the mapping that is listed, except for its path. -/
theorem ofLine_line : Mapping.ofLine (l.line gap) = .ok (some (l.mapping l.readPath)) := by
  obtain ⟨readable, writable, executable⟩ := l.flags_permissions
  have path : ∀ range permissions offset, Mapping.pathOf (range :: permissions :: offset ::
      l.device.toList :: l.inode.toList :: Text.words l.pathname.toList) = l.readPath := by
    intro range permissions offset
    rw [Mapping.pathOf, readPath, List.head?_eq_getElem?]
    rfl
  rw [Mapping.ofLine, words_line]
  dsimp only
  rw [splitRange_range]
  dsimp only
  rw [Text.readWord_padHex, Text.readWord_padHex, Text.readWord_padHex, readable, writable,
    executable, path]
  rfl

/-! ## The path -/

/-- A line without a path name has no path. -/
theorem readPath_of_empty (empty : l.pathname = "") : l.readPath = none := by
  rw [readPath, empty]
  rfl

/-- A name in brackets is no path, whatever stands in the brackets. -/
theorem readPath_of_bracket (bracket : l.pathname.toList.head? = some '[') :
    l.readPath = none := by
  obtain ⟨rest, name⟩ := List.head?_eq_some_iff.1 bracket
  obtain ⟨words, first⟩ := Text.exists_words_eq_cons (c := '[') (by decide) rest
  rw [readPath, name, first, List.head?_cons, List.takeWhile_cons_of_pos (by decide)]
  rfl

/-- Of an absolute path the part ahead of its first blank is read. -/
theorem readPath_of_absolute (absolute : l.pathname.toList.head? = some '/') :
    l.readPath = some (String.ofList (l.pathname.toList.takeWhile (!Text.isBlank ·))) := by
  obtain ⟨rest, name⟩ := List.head?_eq_some_iff.1 absolute
  obtain ⟨words, first⟩ := Text.exists_words_eq_cons (c := '/') (by decide) rest
  rw [readPath, name, first, List.head?_cons, List.takeWhile_cons_of_pos (by decide)]
  rfl

/-- Two paths of one listing give one mapping only if they are the same. -/
theorem mapping_inj {path other : Option String} :
    l.mapping path = l.mapping other ↔ path = other :=
  ⟨congrArg Mapping.path, congrArg l.mapping⟩

end Listing

namespace Mapping

/-- A line of a mapping is read with the numbers and the permissions that it was written with,
however far its name is put to the right. A name that is empty or in brackets is read as no path. Of
an absolute path the part ahead of its first blank is read, so the path is read back exactly if it
has no blanks. -/
theorem ofLine_line_iff (l : Listing) (gap : Nat) :
    (∃ path, ofLine (l.line gap) = .ok (some (l.mapping path))) ∧
      (l.pathname = "" ∨ l.pathname.toList.head? = some '[' →
        ofLine (l.line gap) = .ok (some (l.mapping none))) ∧
      (l.pathname.toList.head? = some '/' →
        ofLine (l.line gap) = .ok (some (l.mapping (some (String.ofList
          (l.pathname.toList.takeWhile (!Text.isBlank ·)))))) ∧
        (ofLine (l.line gap) = .ok (some (l.mapping (some l.pathname))) ↔
          ∀ c ∈ l.pathname.toList, Text.isBlank c = false)) := by
  rw [l.ofLine_line gap]
  refine ⟨⟨_, rfl⟩, ?_, fun absolute => ?_⟩
  · rintro (empty | bracket)
    · rw [l.readPath_of_empty empty]
    · rw [l.readPath_of_bracket bracket]
  · rw [l.readPath_of_absolute absolute]
    refine ⟨rfl, ?_⟩
    rw [Except.ok.injEq, Option.some_inj, l.mapping_inj, Option.some_inj, ← String.toList_inj,
      String.toList_ofList, List.takeWhile_eq_self_iff]
    simp

/-- The line of a library is read back, and that of a stack is read without a path. -/
theorem ofLine_line_library :
    let library : Listing :=
      { start := 0x7f1234567000, stop := 0x7f1234568000, readable := true, writable := false,
        executable := true, shared := false, offset := 0x1000, device := "08:01",
        inode := "123456", pathname := "/usr/lib/libkonan.so" }
    let stack : Listing :=
      { start := 0x7ffd0000, stop := 0x7ffe0000, readable := true, writable := true,
        executable := false, shared := false, offset := 0, device := "00:00", inode := "0",
        pathname := "[stack]" }
    library.line 0 =
        "7f1234567000-7f1234568000 r-xp 00001000 08:01 123456 /usr/lib/libkonan.so" ∧
      ofLine (library.line 0) = .ok (some ⟨0x7f1234567000, 0x7f1234568000, true, false, true,
        0x1000, some "/usr/lib/libkonan.so"⟩) ∧
      ofLine (stack.line 9) =
        .ok (some ⟨0x7ffd0000, 0x7ffe0000, true, true, false, 0, none⟩) := by
  intro library stack
  refine ⟨by decide +kernel, ?_, (ofLine_line_iff stack 9).2.1 (.inr (by decide))⟩
  have unbroken : Text.IsWord library.pathname.toList := by decide
  exact ((ofLine_line_iff library 0).2.2 (by decide)).2.2 unbroken.unbroken

/-- A path with a space in it is cut off at the space, so another file is taken for the one that is
mapped. -/
theorem ofLine_line_cut_off :
    let app : Listing :=
      { start := 0x400000, stop := 0x401000, readable := true, writable := false,
        executable := true, shared := false, offset := 0, device := "08:01", inode := "42",
        pathname := "/opt/My App/app.kexe" }
    app.line 0 = "00400000-00401000 r-xp 00000000 08:01 42 /opt/My App/app.kexe" ∧
      ofLine (app.line 0) = .ok (some (app.mapping (some "/opt/My"))) ∧
      ofLine (app.line 0) ≠ .ok (some (app.mapping (some "/opt/My App/app.kexe"))) := by
  intro app
  have read : ofLine (app.line 0) = .ok (some (app.mapping (some "/opt/My"))) := by
    rw [app.ofLine_line, app.readPath_of_absolute (by decide)]
    decide
  refine ⟨by decide +kernel, read, ?_⟩
  rw [read]
  decide

end Mapping

end HeapScope
