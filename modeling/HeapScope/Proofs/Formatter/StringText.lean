import HeapScope.Proofs.Formatter.Hardcoded
import HeapScope.Proofs.Primitive
import HeapScope.Proofs.Text.Quoted
import HeapScope.Proofs.Text.Utf16

/-!
# What the text of a string says of the string

The text of a string shows its first units between quotes, and a mark behind them if there are
more. The units are cut off before they are read as characters. So a string that fits the limit is
shown as it is, and the text gives it back: `stringSummary_lossless`. A string that does not fit is
shown as a beginning of itself, unless the limit falls between the two halves of a pair; then the
text ends with U+FFFD, which the string does not hold there: `stringSummary_beginning_iff`.

## Shape of the argument

* `StandsForString` says what has to lie in memory. Every string of less than 2³² units can lie
  there (`standsForString_storing`).
* `outcome_stringSummary` says that the summary is then `shownText`, which knows of no memory.
* `unquote_shownText` reads that text back as the characters between the quotes and the mark behind
  them. The rest is known of units and characters.

Nothing depends on which characters are spelt out by their code points: `spelt` is any set.
-/

namespace HeapScope

namespace Context

/-- At an address lies the object of a string. It says how many units there are, and as many of them
as are asked for can be read behind that. -/
structure HoldsString (c : Context) (object : UInt64) (units : List UInt16) : Prop where
  counted : units.length < 2 ^ 32 ∧ ∃ address, addExact object c.abi.countOffset = .ok address ∧
    c.memory address 4 = .ok (toLittleEndian 4 units.length)
  readable : ∀ n ≤ units.length, n ≠ 0 → ∃ offset address, c.abi.dataOffset = .ok offset ∧
    addExact object offset = .ok address ∧
    c.memory address (n * 2) = .ok (Text.Utf16.toBytes (units.take n))

/-- A value of the current stop stands for the object of a string. -/
structure StandsForString (c : Context) (v : Value) (units : List UInt16) : Prop where
  fresh : c.isFresh v = true
  found : ∃ object, (c.objectAddress v).outcome = .ok object ∧ object ≠ 0 ∧
    c.HoldsString object units

/-- The bytes of the object of a string: its header, how many units there are, and behind a gap the
units. -/
def stringObject (units : List UInt16) : List UInt8 :=
  toLittleEndian 8 0 ++ toLittleEndian 4 units.length ++ toLittleEndian 4 0
    ++ Text.Utf16.toBytes units

/-- A context with nothing but a string in memory, from the address 0x1000 on. -/
def storing (units : List UInt16) : Context where
  memory address size := .ok (((stringObject units).drop (address.toNat - 0x1000)).take size)
  metadata := ⟨fun _ => none, fun _ => none⟩

/-- The value that stands for the string there. -/
def stored : Value := .objectAt (.ofKind "kotlin.String" .string) 0x1000 1

/-- Every string of less than 2³² units lies in some memory. -/
theorem standsForString_storing (units : List UInt16) (fits : units.length < 2 ^ 32) :
    (storing units).StandsForString stored units where
  fresh := rfl
  found := by
    have data : Abi.wide.dataOffset = .ok 16 := by decide
    refine ⟨0x1000, rfl, by decide, ⟨fits, 0x1008, rfl, rfl⟩, fun n within _ => ?_⟩
    refine ⟨16, 0x1010, data, rfl, ?_⟩
    rw [Text.Utf16.toBytes_take]
    rfl

end Context

namespace Builtin

open Text

variable {config : FormatterConfig} {c : Context} {v : Value} {object : UInt64}
  {units : List UInt16}

/-! ## Reading a string -/

/-- The text of a string, with the characters of some set spelt out. -/
def stringTextWith (spelt : Char → Bool) (config : FormatterConfig) (c : Context) (v : Value) :
    Probe String :=
  withObject c v nullText fun object => do
    let count := (← c.arrayCount object).toNat
    let shown := min count config.maxStringUnits
    let units ← stringUnits c object shown
    let text := String.ofList (Quoted.quote spelt (Utf16.decode units))
    return if shown < count then text ++ ellipsis else text

/-- The text of a string is written with the characters that have a glyph. -/
theorem stringText_eq (config : FormatterConfig) (c : Context) (v : Value) :
    stringText config c v = stringTextWith isGlyphless config c v := by
  simp only [stringText, stringTextWith, quoted, String.toList_ofList]

/-- The text of a string of some units under a limit. -/
def shownText (spelt : Char → Bool) (limit : Nat) (units : List UInt16) : String :=
  String.ofList (Quoted.quote spelt (Utf16.decode (units.take limit)))
    ++ if limit < units.length then ellipsis else ""

/-- The count of a string is the number of its units. -/
theorem outcome_arrayCount (string : c.HoldsString object units) :
    (c.arrayCount object).outcome = .ok (UInt32.ofNat units.length) := by
  obtain ⟨fits, address, place, bytes⟩ := string.counted
  have number : Memory.readNumber c.memory address 4
      = .ok (littleEndian (toLittleEndian 4 units.length)) := by
    rw [Memory.readNumber, bytes]
    simp only [length_toLittleEndian, if_true, bind, Except.bind, pure, Except.pure]
  rw [Context.arrayCount, place, Probe.liftM_ok_bind, Context.readUInt32, number,
    littleEndian_toLittleEndian fits]
  rfl

/-- The first units of a string are read. -/
theorem outcome_stringUnits (string : c.HoldsString object units) {n : Nat}
    (within : n ≤ units.length) : (stringUnits c object n).outcome = .ok (units.take n) := by
  rw [stringUnits]
  split
  case isTrue none =>
    rw [none]
    rfl
  case isFalse some =>
    obtain ⟨offset, address, hoffset, place, bytes⟩ := string.readable n within some
    have full : (Utf16.toBytes (units.take n)).length = n * 2 := by
      rw [Utf16.length_toBytes, List.length_take_of_le within]
    have read : (c.read address (n * 2)).outcome = .ok (Utf16.toBytes (units.take n)) := by
      rw [Context.read, bytes]
      exact congrArg Probe.outcome (if_pos full)
    rw [hoffset, Probe.liftM_ok_bind, place, Probe.liftM_ok_bind, Probe.outcome_bind_of_ok read,
      Utf16.ofBytes_toBytes]
    rfl

/-- A string that lies in memory has a text. -/
theorem outcome_stringTextWith (spelt : Char → Bool)
    (stands : (c.objectAddress v).outcome = .ok object) (nonzero : object ≠ 0)
    (string : c.HoldsString object units) :
    (stringTextWith spelt config c v).outcome =
      .ok (shownText spelt config.maxStringUnits units) := by
  have count : (UInt32.ofNat units.length).toNat = units.length :=
    UInt32.toNat_ofNat_of_lt' string.counted.1
  have first := outcome_stringUnits string (Nat.min_le_left units.length config.maxStringUnits)
  have same : units.take (min units.length config.maxStringUnits)
      = units.take config.maxStringUnits := by
    rw [Nat.min_comm, ← List.take_eq_take_min]
  have more : min units.length config.maxStringUnits < units.length
      ↔ config.maxStringUnits < units.length := by omega
  rw [stringTextWith, withObject, Probe.outcome_bind_of_ok stands, if_neg nonzero,
    Probe.outcome_bind_of_ok (outcome_arrayCount string), count, Probe.outcome_bind_of_ok first,
    same, shownText]
  simp only [more, Probe.outcome_pure]
  split
  · rfl
  · rw [String.append_empty]

/-! ## What a text is read back as -/

/-- Between the quotes of a text stand the first units as characters, and behind them a mark exactly
if there are more. -/
theorem unquote_shownText (spelt : Char → Bool) (limit : Nat) (units : List UInt16) :
    Quoted.unquote (shownText spelt limit units).toList =
      some (Utf16.decode (units.take limit),
        if limit < units.length then ellipsis.toList else []) := by
  rw [shownText, String.toList_append, String.toList_ofList, Quoted.unquote_quote_append]
  split <;> rfl

/-- The units of the string that a text shows as a whole. -/
def readWhole (text : String) : Option (List UInt16) :=
  match Quoted.unquote text.toList with
  | some (s, []) => some (Utf16.encode s)
  | _ => none

/-- A text is read back as the string if it shows the whole of it. -/
theorem readWhole_shownText (spelt : Char → Bool) {limit : Nat} {s : List Char}
    (fits : (Utf16.encode s).length ≤ limit) :
    readWhole (shownText spelt limit (Utf16.encode s)) = some (Utf16.encode s) := by
  rw [readWhole, unquote_shownText, if_neg (by omega), List.take_of_length_le fits,
    Utf16.decode_encode]

/-- A text with a mark is not read as that of a whole string. -/
theorem readWhole_shownText_of_lt (spelt : Char → Bool) {limit : Nat} {units : List UInt16}
    (more : limit < units.length) : readWhole (shownText spelt limit units) = none := by
  rw [readWhole, unquote_shownText, if_pos more]
  rfl

end Builtin

namespace FormatterRegistry

open Builtin Text

variable {r : FormatterRegistry} {c : Context} {v : Value} {units : List UInt16}

/-- The summary that is built in for a string, with the characters of some set spelt out. -/
def stringSummary (spelt : Char → Bool) (r : FormatterRegistry) (c : Context) (v : Value) :
    Probe (Option String) := do
  c.validate v
  (some <$> stringTextWith spelt r.config c v).guarded

/-- The summary of a string is its text, under guard. -/
theorem hardcodedSummary_string (r : FormatterRegistry) (c : Context) (v : Value) (h : TypeHead) :
    r.hardcodedSummary c v (.plain h .string) = r.stringSummary isGlyphless c v := by
  rw [hardcodedSummary, stringSummary, builtinSummary_eq, ← stringText_eq]
  rfl

/-- A string that lies in memory has a summary. -/
theorem outcome_stringSummary (spelt : Char → Bool) (string : c.StandsForString v units) :
    (r.stringSummary spelt c v).outcome =
      .ok (some (shownText spelt r.config.maxStringUnits units)) := by
  obtain ⟨object, stands, nonzero, holds⟩ := string.found
  rw [stringSummary, Context.validate, if_pos string.fresh, pure_bind, Probe.outcome_guarded,
    Probe.outcome_map_of_ok (outcome_stringTextWith spelt stands nonzero holds)]

/-! ## Strings that fit the limit -/

/-- In some context, and with some characters spelt out, a text is the summary of a string that fits
the limit. -/
def ShowsWhole (text : String) (s : List Char) : Prop :=
  ∃ (spelt : Char → Bool) (r : FormatterRegistry) (c : Context) (v : Value),
    c.StandsForString v (Utf16.encode s) ∧ (Utf16.encode s).length ≤ r.config.maxStringUnits ∧
      (r.stringSummary spelt c v).outcome = .ok (some text)

/-- In some context, and with some characters spelt out, a text is the summary of a string that goes
beyond the limit. -/
def ShowsCut (text : String) : Prop :=
  ∃ (spelt : Char → Bool) (r : FormatterRegistry) (c : Context) (v : Value) (units : List UInt16),
    c.StandsForString v units ∧ r.config.maxStringUnits < units.length ∧
      (r.stringSummary spelt c v).outcome = .ok (some text)

/-- A whole text is read back as the units of the string. -/
theorem ShowsWhole.readWhole {text : String} {s : List Char} (whole : ShowsWhole text s) :
    Builtin.readWhole text = some (Utf16.encode s) := by
  obtain ⟨spelt, r, c, v, string, fits, shown⟩ := whole
  rw [outcome_stringSummary spelt string] at shown
  cases shown
  exact readWhole_shownText spelt fits

/-- A cut text is read back as no string. -/
theorem ShowsCut.readWhole {text : String} (beyond : ShowsCut text) :
    Builtin.readWhole text = none := by
  obtain ⟨spelt, r, c, v, units, string, more, shown⟩ := beyond
  rw [outcome_stringSummary spelt string] at shown
  cases shown
  exact readWhole_shownText_of_lt spelt more

/-- Nor is the text of a missing one. -/
theorem readWhole_nullText : Builtin.readWhole nullText = none := rfl

/-- The summary of a string that fits the limit loses nothing: the units are read back from it. So
it is not `null`, not the summary of a longer string that is cut short, and not that of another
string, whichever characters are spelt out in either. -/
theorem stringSummary_lossless (spelt : Char → Bool) (r : FormatterRegistry) {c : Context}
    {v : Value} {s : List Char} (string : c.StandsForString v (Utf16.encode s))
    (fits : (Utf16.encode s).length ≤ r.config.maxStringUnits) :
    (∀ h, r.hardcodedSummary c v (.plain h .string) = r.stringSummary isGlyphless c v) ∧
      ∃ text, (r.stringSummary spelt c v).outcome = .ok (some text) ∧
        Builtin.readWhole text = some (Utf16.encode s) ∧ text ≠ nullText ∧ ¬ ShowsCut text ∧
        ∀ other, ShowsWhole text other → other = s := by
  have summary := outcome_stringSummary (r := r) spelt string
  have back := readWhole_shownText spelt fits
  refine ⟨r.hardcodedSummary_string c v, _, summary, back, ?_, ?_, ?_⟩
  · intro null
    rw [null, readWhole_nullText] at back
    cases back
  · intro beyond
    rw [beyond.readWhole] at back
    cases back
  · intro other whole
    rw [whole.readWhole] at back
    rw [← Utf16.decode_encode other, Option.some_inj.1 back, Utf16.decode_encode]

/-- A string of a quote, of what looks like an escape, of a character of two units and of dots is
read back where all its characters are spelt out. -/
theorem stringSummary_lossless_escapes :
    let s := "\"\\u0041😀...".toList
    let c := Context.storing (Utf16.encode s)
    c.StandsForString Context.stored (Utf16.encode s) ∧
      (Utf16.encode s).length ≤ (1024 : Nat) ∧
      ∃ text, (stringSummary (fun _ => true) {} c Context.stored).outcome = .ok (some text) ∧
        Builtin.readWhole text = some (Utf16.encode s) ∧ text ≠ nullText ∧ ¬ ShowsCut text := by
  intro s c
  have fits : (Utf16.encode s).length ≤ (1024 : Nat) := by decide
  have string : c.StandsForString Context.stored (Utf16.encode s) :=
    Context.standsForString_storing _ (Nat.lt_of_le_of_lt fits (by decide))
  obtain ⟨-, text, summary, back, notNull, notCut, -⟩ :=
    stringSummary_lossless (fun _ => true) {} string fits
  exact ⟨string, fits, text, summary, back, notNull, notCut⟩

/-! ## Strings that are cut short -/

/-- Whatever the limit, the quoted text has as many units as the limit allows, and a mark stands
behind it exactly if the string has more. It is a beginning of the string unless the limit falls
between the units of one character; there U+FFFD stands in place of the character. -/
theorem stringSummary_beginning_iff (r : FormatterRegistry) (h : TypeHead) {c : Context} {v : Value}
    {s : List Char} (string : c.StandsForString v (Utf16.encode s)) :
    ∃ text shown, (r.hardcodedSummary c v (.plain h .string)).outcome = .ok (some text) ∧
      Quoted.unquote text.toList = some (shown,
        if r.config.maxStringUnits < (Utf16.encode s).length then ellipsis.toList else []) ∧
      (Utf16.encode shown).length = min r.config.maxStringUnits (Utf16.encode s).length ∧
      (shown <+: s ↔ ¬ Utf16.Splits r.config.maxStringUnits s) ∧
      ∀ ahead split behind, s = ahead ++ split :: behind →
        (Utf16.encode ahead).length < r.config.maxStringUnits →
        r.config.maxStringUnits < (Utf16.encode (ahead ++ [split])).length →
          shown = ahead ++ [Utf16.replacement] := by
  refine ⟨shownText isGlyphless r.config.maxStringUnits (Utf16.encode s),
    Utf16.cut r.config.maxStringUnits s, ?_, ?_, Utf16.length_encode_cut _ s,
    Utf16.cut_prefix_iff _ s, ?_⟩
  · rw [hardcodedSummary_string, outcome_stringSummary isGlyphless string]
  · rw [unquote_shownText, Utf16.decode_take_encode]
  · rintro ahead split behind rfl before within
    exact Utf16.cut_of_between before within

/-- A limit behind both halves of a pair leaves the pair as it is. -/
theorem stringSummary_beginning_iff_after_pair :
    let s := "a😀b".toList
    let c := Context.storing (Utf16.encode s)
    let r : FormatterRegistry := { config := { maxStringUnits := 3 } }
    c.StandsForString Context.stored (Utf16.encode s) ∧
      ∃ text shown, (r.hardcodedSummary c Context.stored
          (.ofKind "kotlin.String" .string)).outcome = .ok (some text) ∧
        Quoted.unquote text.toList = some (shown, ellipsis.toList) ∧
        (Utf16.encode shown).length = 3 ∧ shown <+: s := by
  intro s c r
  have string : c.StandsForString Context.stored (Utf16.encode s) :=
    Context.standsForString_storing _ (by decide)
  have apart : ¬ Utf16.Splits 3 s := (Utf16.cut_prefix_iff _ _).1 (by decide)
  obtain ⟨text, shown, summary, back, length, isBeginning, -⟩ :=
    stringSummary_beginning_iff r ⟨"kotlin.String", none, none⟩ string
  exact ⟨string, text, shown, summary, back, length, isBeginning.2 apart⟩

/-- A limit between the halves of a pair leaves U+FFFD, which the string does not hold. -/
theorem stringSummary_split_pair :
    let s := "a😀".toList
    let c := Context.storing (Utf16.encode s)
    let r : FormatterRegistry := { config := { maxStringUnits := 2 } }
    c.StandsForString Context.stored (Utf16.encode s) ∧
      ∃ text, (r.hardcodedSummary c Context.stored
          (.ofKind "kotlin.String" .string)).outcome = .ok (some text) ∧
        Quoted.unquote text.toList = some (['a', Utf16.replacement], ellipsis.toList) ∧
        ¬ ['a', Utf16.replacement] <+: s := by
  intro s c r
  have string : c.StandsForString Context.stored (Utf16.encode s) :=
    Context.standsForString_storing _ (by decide)
  have read : Utf16.cut 2 s = ['a', Utf16.replacement] := by decide
  refine ⟨string, shownText isGlyphless 2 (Utf16.encode s), ?_, ?_, by decide⟩
  · exact (congrArg Probe.outcome (r.hardcodedSummary_string c _ _)).trans
      (outcome_stringSummary isGlyphless string)
  · rw [unquote_shownText, Utf16.decode_take_encode, read]
    rfl

end FormatterRegistry

end HeapScope
