import HeapScope.Context
import HeapScope.Proofs.Memory.Snapshot
import HeapScope.Proofs.Probe
import HeapScope.Proofs.Text.Integer

/-!
# Decoded primitives and their texts

A value of a kind is the one that belongs to a number, and decoding takes the number from the first
bytes. For the eight kinds of integers that number comes back from the value up to a multiple of
how many numbers the bytes tell apart, with or without a sign. From this everything else follows:
the bytes of the integer are the decoded ones, and as the integer lies within the bounds of its
kind, it is read from its decimal text. Truth values and characters are told apart by their texts
as well; a character that is written as itself is never an escape, since the texts differ in
length. A register stands for its eight bytes, of which decoding looks at the first ones, as a read
of memory does.
-/

namespace HeapScope

namespace PrimitiveKind

/-- Whether the values of a kind are numbers from a range of integers. -/
def isInteger : PrimitiveKind → Bool
  | byte | short | int | long | ubyte | ushort | uint | ulong => true
  | float | double | boolean | char => false

/-- Whether there are negative numbers of a kind of integers. -/
def isSigned : PrimitiveKind → Bool
  | byte | short | int | long => true
  | _ => false

/-- How many numbers the bytes of a kind tell apart. -/
def count (k : PrimitiveKind) : Nat := 256 ^ k.size

/-- The smallest number of a kind of integers. -/
def least (k : PrimitiveKind) : Int := if k.isSigned then -(k.count / 2 : Nat) else 0

/-- The greatest number of a kind of integers. -/
def greatest (k : PrimitiveKind) : Int := k.least + k.count - 1

example : byte.least = -128 ∧ byte.greatest = 127 ∧ ubyte.greatest = 255 := by decide

/-- The bytes of an integer, negative numbers in two's complement. -/
def integerBytes (k : PrimitiveKind) (i : Int) : List UInt8 :=
  toLittleEndian k.size (i % k.count).toNat

/-- The value of a kind with the bytes of an integer. -/
def ofInteger (k : PrimitiveKind) (i : Int) : PrimitiveValue := k.ofNumber (i % k.count).toNat

/-- Reads a value of a kind of integers from its text. -/
def parse (k : PrimitiveKind) (s : String) : Option PrimitiveValue :=
  (Text.readInteger k.least k.greatest s.toList).map k.ofInteger

variable {k : PrimitiveKind} {bytes rest : List UInt8} {v : PrimitiveValue}

/-- No primitive takes more bytes than a register has. -/
theorem size_le (k : PrimitiveKind) : k.size ≤ 8 := by cases k <;> decide

/-- The values of a kind are no more than a register holds. -/
theorem count_le (k : PrimitiveKind) : k.count ≤ UInt64.size :=
  Nat.pow_le_pow_right (n := 256) (by decide) k.size_le

/-- Numbers with one remainder stand for one value. -/
theorem ofNumber_mod (k : PrimitiveKind) (n : Nat) : k.ofNumber (n % k.count) = k.ofNumber n := by
  cases k with
  | byte | ubyte | boolean =>
    have same : UInt8.ofNat (n % 256 ^ 1) = UInt8.ofNat n := UInt8.ofNat_mod_size
    simp only [ofNumber, count, size, same]
  | short | ushort | char =>
    have same : UInt16.ofNat (n % 256 ^ 2) = UInt16.ofNat n := UInt16.ofNat_mod_size
    simp only [ofNumber, count, size, same]
  | int | uint | float =>
    have same : UInt32.ofNat (n % 256 ^ 4) = UInt32.ofNat n := UInt32.ofNat_mod_size
    simp only [ofNumber, count, size, same]
  | long | ulong | double =>
    have same : UInt64.ofNat (n % 256 ^ 8) = UInt64.ofNat n := UInt64.ofNat_mod_size
    simp only [ofNumber, count, size, same]

/-- Decoding fails if there are not enough bytes, and only then. -/
theorem decode_eq_error_iff :
    (∃ reason, k.decode bytes = .error (.malformed reason)) ↔ bytes.length < k.size := by
  rw [decode]
  split
  case isTrue short => exact ⟨fun _ => short, fun _ => ⟨_, rfl⟩⟩
  case isFalse enough => exact ⟨nofun, fun short => absurd short enough⟩

/-- Bytes are decoded if there are enough of them, and the further ones do not count. -/
theorem decode_ok_iff :
    k.decode bytes = .ok v ↔
      k.size ≤ bytes.length ∧ k.ofNumber (littleEndian (bytes.take k.size)) = v := by
  rw [decode]
  split
  case isTrue short => exact ⟨nofun, fun ok => absurd short (Nat.not_lt.2 ok.1)⟩
  case isFalse enough => simp [Nat.not_lt.1 enough]

/-- Decoding looks at the first bytes only. -/
theorem decode_congr (same : bytes.take k.size = rest.take k.size) :
    k.decode bytes = k.decode rest := by
  have lengths := congrArg List.length same
  rw [List.length_take, List.length_take] at lengths
  by_cases short : bytes.length < k.size
  · have whole : bytes = rest := by
      rwa [List.take_of_length_le (by omega), List.take_of_length_le (by omega)] at same
    rw [whole]
  · rw [decode, decode, if_neg short, if_neg (by omega), same]

end PrimitiveKind

namespace PrimitiveValue

/-- The kind of a value. -/
def kind : PrimitiveValue → PrimitiveKind
  | byte _ => .byte
  | short _ => .short
  | int _ => .int
  | long _ => .long
  | float _ => .float
  | double _ => .double
  | boolean _ => .boolean
  | char _ => .char
  | ubyte _ => .ubyte
  | ushort _ => .ushort
  | uint _ => .uint
  | ulong _ => .ulong

/-- The number that a value of a kind of integers is. -/
def number? : PrimitiveValue → Option Int
  | byte v => some v.toInt
  | short v => some v.toInt
  | int v => some v.toInt
  | long v => some v.toInt
  | ubyte v => some v.toNat
  | ushort v => some v.toNat
  | uint v => some v.toNat
  | ulong v => some v.toNat
  | float _ | double _ | boolean _ | char _ => none

variable {k : PrimitiveKind} {v w : PrimitiveValue} {i : Int} {n : Nat}

/-- The value that a number stands for is of the kind that was asked for. -/
theorem kind_ofNumber (k : PrimitiveKind) (n : Nat) : (k.ofNumber n).kind = k := by
  cases k <;> rfl

/-- Every value of a kind is the one whose bytes stand for some number. -/
theorem exists_eq_ofNumber (v : PrimitiveValue) : ∃ n, v = v.kind.ofNumber n := by
  cases v with
  | byte v => exact ⟨v.toUInt8.toNat, by simp [kind, PrimitiveKind.ofNumber]⟩
  | short v => exact ⟨v.toUInt16.toNat, by simp [kind, PrimitiveKind.ofNumber]⟩
  | int v => exact ⟨v.toUInt32.toNat, by simp [kind, PrimitiveKind.ofNumber]⟩
  | long v => exact ⟨v.toUInt64.toNat, by simp [kind, PrimitiveKind.ofNumber]⟩
  | float v | double v | char v | ubyte v | ushort v | uint v | ulong v =>
    exact ⟨v.toNat, by simp [kind, PrimitiveKind.ofNumber]⟩
  | boolean b => exact ⟨b.toNat, by cases b <;> rfl⟩

/-- A value has a number if its kind is one of integers. -/
theorem isSome_number? (v : PrimitiveValue) : v.number?.isSome = v.kind.isInteger := by
  cases v <;> rfl

/-- The number of a value lies within the bounds of its kind. -/
theorem bounds_of_number? (h : v.number? = some i) :
    v.kind.least ≤ i ∧ i ≤ v.kind.greatest := by
  cases v with
  | byte v | short v | int v | long v =>
    cases h
    have low := v.le_toInt
    have high := v.toInt_lt
    simp only [kind, PrimitiveKind.least, PrimitiveKind.greatest, PrimitiveKind.isSigned,
      PrimitiveKind.count, PrimitiveKind.size, if_true]
    omega
  | ubyte v | ushort v | uint v | ulong v =>
    cases h
    have high := v.toNat_lt
    simp only [kind, PrimitiveKind.least, PrimitiveKind.greatest, PrimitiveKind.isSigned,
      PrimitiveKind.count, PrimitiveKind.size, Bool.false_eq_true, if_false]
    omega
  | float | double | boolean | char => cases h

/-- The number of a value is the one that its bytes stand for, up to a multiple of how many they
tell apart. -/
theorem emod_of_number?_ofNumber (h : (k.ofNumber n).number? = some i) :
    i % k.count = (n % k.count : Nat) := by
  rw [Int.natCast_emod]
  cases k with
  | byte | short | int | long =>
    cases h
    simp only [UInt8.toInt8_ofNat', UInt16.toInt16_ofNat', UInt32.toInt32_ofNat',
      UInt64.toInt64_ofNat', Int8.toInt_ofNat', Int16.toInt_ofNat', Int32.toInt_ofNat',
      Int64.toInt_ofNat']
    exact Int.bmod_emod
  | ubyte | ushort | uint | ulong =>
    cases h
    simp only [UInt8.toNat_ofNat', UInt16.toNat_ofNat', UInt32.toNat_ofNat', UInt64.toNat_ofNat',
      Int.natCast_emod]
    exact Int.emod_emod _ _
  | float | double | boolean | char => cases h

/-- The number of a value stands for that value. -/
theorem ofInteger_number? (h : v.number? = some i) : v.kind.ofInteger i = v := by
  obtain ⟨n, value⟩ := exists_eq_ofNumber v
  rw [value] at h
  rw [PrimitiveKind.ofInteger, emod_of_number?_ofNumber h, Int.toNat_natCast,
    PrimitiveKind.ofNumber_mod, ← value]

/-- The text of a number is the one that decimals give it. -/
theorem text_of_number? (h : v.number? = some i) : v.text = Text.signed i := by
  cases v with
  | byte | short | int | long | ubyte | ushort | uint | ulong =>
    cases h
    rfl
  | float | double | boolean | char => cases h

/-- The number of a value fits a word, but for its sign. -/
theorem natAbs_lt_of_number? (h : v.number? = some i) : i.natAbs < UInt64.size := by
  obtain ⟨low, high⟩ := bounds_of_number? h
  have words := v.kind.count_le
  rw [PrimitiveKind.greatest] at high
  rw [PrimitiveKind.least] at low high
  rw [UInt64.size] at words ⊢
  split at low <;> omega

/-- A value of a kind of integers is read from its text. -/
theorem parse_text (h : v.number? = some i) :
    Text.readInteger v.kind.least v.kind.greatest v.text.toList = some i ∧
      v.kind.parse v.text = some v := by
  obtain ⟨low, high⟩ := bounds_of_number? h
  have read : Text.readInteger v.kind.least v.kind.greatest v.text.toList = some i := by
    rw [text_of_number? h]
    exact Text.readInteger_signed low high (natAbs_lt_of_number? h)
  refine ⟨read, ?_⟩
  rw [PrimitiveKind.parse, read, Option.map_some, ofInteger_number? h]

/-! ## Characters -/

/-- A unit that is written as itself is the number of a character. -/
theorem toNat_ofNat_of_isVisibleUnit {unit : UInt16} (visible : isVisibleUnit unit = true) :
    (Char.ofNat unit.toNat).toNat = unit.toNat := by
  have valid : unit.toNat.isValidChar := by
    have small := unit.toNat_lt
    simp only [isVisibleUnit, UInt16.lt_iff_toNat_lt, UInt16.reduceToNat, UInt16.le_iff_toNat_le,
      Bool.not_or, Bool.not_and, Bool.and_eq_true, Bool.not_eq_eq_eq_not, Bool.not_true,
      decide_eq_false_iff_not, not_lt, Bool.or_eq_true, not_le] at visible
    rw [Nat.isValidChar]
    omega
  rw [Char.ofNat, dif_pos valid]
  rfl

/-- Two 16-bit units have two texts: one character between the quotes, or an escape of several. -/
theorem unitText_inj {a b : UInt16} : unitText a = unitText b ↔ a = b := by
  refine ⟨fun same => ?_, congrArg unitText⟩
  have chars := congrArg String.toList same
  rw [unitText, unitText, String.toList_ofList, String.toList_ofList] at chars
  refine UInt16.toNat.inj ?_
  split at chars <;> split at chars
  case isTrue.isTrue seenA seenB =>
    have char : Char.ofNat a.toNat = Char.ofNat b.toNat := by simpa using chars
    rw [← toNat_ofNat_of_isVisibleUnit seenA, char, toNat_ofNat_of_isVisibleUnit seenB]
  case isTrue.isFalse => simp at chars
  case isFalse.isTrue => simp at chars
  case isFalse.isFalse =>
    have digits : Text.padHex 4 a.toNat = Text.padHex 4 b.toNat := by simpa using chars
    have worth := Text.digits_padHex 4 b.toNat
    rw [← digits] at worth
    exact (Text.digits_padHex 4 a.toNat).unique (by decide) worth

/-- Values of a kind have one text only if they are one, unless the kind is a floating-point
one. -/
theorem text_inj (float : v.kind ≠ .float) (double : v.kind ≠ .double) (kinds : w.kind = v.kind)
    (texts : w.text = v.text) : w = v := by
  cases number : v.number? with
  | some i =>
    obtain ⟨j, found⟩ : ∃ j, w.number? = some j := by
      rw [← Option.isSome_iff_exists, isSome_number?, kinds, ← isSome_number?, number]
      rfl
    have same : w.kind.parse w.text = v.kind.parse v.text := by rw [kinds, texts]
    rw [(parse_text found).2, (parse_text number).2] at same
    exact Option.some.inj same
  | none =>
    cases v with
    | boolean b =>
      cases w with
      | boolean a => exact congrArg boolean (text_boolean_inj.1 texts)
      | _ => cases kinds
    | char b =>
      cases w with
      | char a => exact congrArg char (unitText_inj.1 texts)
      | _ => cases kinds
    | float => exact absurd rfl float
    | double => exact absurd rfl double
    | _ => cases number

end PrimitiveValue

/-- The bytes of a decoded integer are those that it was decoded from. -/
theorem PrimitiveKind.integerBytes_of_decode {k : PrimitiveKind} {bytes : List UInt8}
    {v : PrimitiveValue} {i : Int} (decoded : k.decode bytes = .ok v)
    (number : v.number? = some i) : k.integerBytes i = bytes.take k.size := by
  obtain ⟨enough, rfl⟩ := decode_ok_iff.1 decoded
  have full : (bytes.take k.size).length = k.size := List.length_take_of_le enough
  have small : littleEndian (bytes.take k.size) < k.count := by
    rw [littleEndian_take]
    exact Nat.mod_lt _ (Nat.pow_pos (by decide))
  rw [integerBytes, PrimitiveValue.emod_of_number?_ofNumber number, Int.toNat_natCast,
    Nat.mod_eq_of_lt small]
  calc toLittleEndian k.size (littleEndian (bytes.take k.size))
      = toLittleEndian (bytes.take k.size).length (littleEndian (bytes.take k.size)) := by rw [full]
    _ = bytes.take k.size := toLittleEndian_littleEndian _

/-! ## Registers and memory -/

namespace Context

variable {c : Context} {r : Register} {k : PrimitiveKind} {address word : UInt64}
  {bytes : List UInt8} {size : Nat}

/-- A register has a value. -/
def HoldsRegister (c : Context) (r : Register) (word : UInt64) : Prop :=
  ∃ read, c.registers = some read ∧ read r = .ok word

/-- Bytes lie at an address: a read of as many of them as one likes gives the first ones. -/
def HoldsBytes (c : Context) (address : UInt64) (bytes : List UInt8) : Prop :=
  ∀ size ≤ bytes.length, c.memory address size = .ok (bytes.take size)

/-- A register is read as the word that it holds. -/
theorem outcome_readRegister_of_holds (holds : c.HoldsRegister r word) :
    (c.readRegister r).outcome = .ok word := by
  obtain ⟨read, present, value⟩ := holds
  rw [readRegister, present]
  dsimp only
  rw [value]
  rfl

/-- Bytes are read as those that memory holds, also if only some of them are wanted. -/
theorem outcome_read_of_holds (holds : c.HoldsBytes address bytes) (inside : size ≤ bytes.length) :
    (c.read address size).outcome = .ok (bytes.take size) := by
  have full : (bytes.take size).length = size := List.length_take_of_le inside
  have first : (recordRead address size (c.memory address size)).outcome =
      .ok (bytes.take size) := by
    rw [holds size inside]
    rfl
  rw [read, Probe.outcome_bind_of_ok first, if_pos full]
  rfl

/-- A primitive is decoded from the bytes that lie at its address. -/
theorem outcome_readScalar_memory (holds : c.HoldsBytes address bytes)
    (inside : k.size ≤ bytes.length) :
    (c.readScalar (.memory address) k).outcome = (Probe.ofExcept (k.decode bytes)).outcome := by
  have front : k.decode (bytes.take k.size) = k.decode bytes :=
    PrimitiveKind.decode_congr (by rw [List.take_take, Nat.min_self])
  rw [readScalar, Probe.outcome_bind_of_ok (outcome_read_of_holds holds inside), front]

/-- A primitive is decoded from the bytes of its register. -/
theorem outcome_readScalar_register (holds : c.HoldsRegister r word) :
    (c.readScalar (.register r) k).outcome =
      (Probe.ofExcept (k.decode (toLittleEndian 8 word.toNat))).outcome := by
  rw [readScalar, Probe.outcome_bind_of_ok (outcome_readRegister_of_holds holds)]

end Context

namespace PrimitiveKind

/-- Decoding fails exactly for fewer bytes than the kind has, and looks at no others. A decoded
value is of the kind. Unless that is a floating-point kind, no other value of it has the same text,
and an integer is read from its text, within the bounds of the kind, and has the bytes that it was
decoded from. A primitive is the same in a register as in memory that holds the bytes of the
register. -/
theorem decoded_values_read_back (k : PrimitiveKind) (float : k ≠ .float) (double : k ≠ .double)
    (bytes : List UInt8) :
    ((∃ reason, k.decode bytes = .error (.malformed reason)) ↔ bytes.length < k.size) ∧
    (∀ rest, bytes.take k.size = rest.take k.size → k.decode bytes = k.decode rest) ∧
    (k.size ≤ bytes.length → ∃ v, k.decode bytes = .ok v ∧ v.kind = k ∧
      (∀ w : PrimitiveValue, w.kind = k → w.text = v.text → w = v) ∧
      (k.isInteger = true → k.parse v.text = some v ∧ ∃ i, v.number? = some i ∧
        Text.readInteger k.least k.greatest v.text.toList = some i ∧
        k.integerBytes i = bytes.take k.size)) ∧
    ∀ (c : Context) (r : Register) (address word : UInt64), c.HoldsRegister r word →
      c.HoldsBytes address (toLittleEndian 8 word.toNat) →
      (c.readScalar (.register r) k).outcome = (c.readScalar (.memory address) k).outcome := by
  refine ⟨decode_eq_error_iff, fun rest => decode_congr, fun enough => ?_,
    fun c r address word register memory => ?_⟩
  · have decoded := decode_ok_iff.2 ⟨enough, rfl⟩
    have kind : (k.ofNumber (littleEndian (bytes.take k.size))).kind = k :=
      PrimitiveValue.kind_ofNumber k _
    generalize k.ofNumber (littleEndian (bytes.take k.size)) = v at decoded kind
    subst kind
    refine ⟨v, decoded, rfl, fun w => PrimitiveValue.text_inj float double, fun integer => ?_⟩
    obtain ⟨i, number⟩ := Option.isSome_iff_exists.1 (v.isSome_number?.trans integer)
    obtain ⟨read, parsed⟩ := PrimitiveValue.parse_text number
    exact ⟨parsed, i, number, read, integerBytes_of_decode decoded number⟩
  · have inside : k.size ≤ (toLittleEndian 8 word.toNat).length := by
      rw [length_toLittleEndian]
      exact k.size_le
    rw [Context.outcome_readScalar_register register,
      Context.outcome_readScalar_memory memory inside]

/-- The bytes of a negative number, and the same bytes in the low half of a word, in a register and
in memory. -/
theorem decoded_values_read_back_negative :
    let word : UInt64 := 0x7fffffffe
    let bytes : List UInt8 := [0xfe, 0xff, 0xff, 0xff, 7]
    let memory : MemorySnapshot := ⟨[⟨0x1000, toLittleEndian 8 word.toNat⟩]⟩
    let c : Context :=
      { memory := memory.read
        registers := some (RegisterSnapshot.set {} .rax word).read
        metadata := ⟨fun _ => none, fun _ => none⟩ }
    int ≠ .float ∧ int ≠ .double ∧ int.decode bytes = .ok (.int (-2)) ∧
      (∀ w : PrimitiveValue, w.kind = .int → w.text = "-2" → w = .int (-2)) ∧
      int.parse "-2" = some (.int (-2)) ∧ int.integerBytes (-2) = [0xfe, 0xff, 0xff, 0xff] ∧
      c.HoldsRegister .rax word ∧ c.HoldsBytes 0x1000 (toLittleEndian 8 word.toNat) ∧
      (c.readScalar (.register .rax) .int).outcome =
        (c.readScalar (.memory 0x1000) .int).outcome := by
  intro word bytes memory c
  have float : int ≠ .float := by decide
  have double : int ≠ .double := by decide
  have register : c.HoldsRegister .rax word := ⟨_, rfl, rfl⟩
  have captured : memory.read 0x1000 8 = .ok (toLittleEndian 8 word.toNat) := rfl
  have lies : c.HoldsBytes 0x1000 (toLittleEndian 8 word.toNat) := fun size inside =>
    MemorySnapshot.read_take captured inside
  have decoded : int.decode bytes = .ok (.int (-2)) := rfl
  have text : (PrimitiveValue.int (-2)).text = "-2" := by decide +kernel
  obtain ⟨-, -, value, same⟩ := decoded_values_read_back .int float double bytes
  obtain ⟨v, found, -, apart, integer⟩ := value (by decide)
  obtain rfl : .int (-2) = v := Except.ok.inj (decoded.symm.trans found)
  obtain ⟨parsed, i, number, -, encoded⟩ := integer rfl
  obtain rfl : -2 = i := Option.some.inj number
  rw [text] at apart parsed
  exact ⟨float, double, decoded, apart, parsed, encoded, register, lies,
    same c .rax 0x1000 word register lies⟩

end PrimitiveKind

end HeapScope
