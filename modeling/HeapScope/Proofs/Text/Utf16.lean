import HeapScope.Primitive
import HeapScope.Text.Utf16

/-!
# Text in 16-bit units, whole and cut short

The units of a text are read back as the text. If only the first units are read, the text ends with
the last character that lies among them as a whole; and if the limit falls between the two halves
of a pair, then U+FFFD stands behind it, which is no character of the text.

`decode_take_encode` says this with `cut`, which goes through the characters of the text and not
through its units. What else there is to know of a text that is cut short is known of `cut`.
-/

namespace HeapScope.Text.Utf16

/-! ## Units and bytes -/

/-- The bytes of units, the low one of each first. -/
def toBytes (units : List UInt16) : List UInt8 :=
  units.flatMap fun u => toLittleEndian 2 u.toNat

/-- The bytes of a unit are its low one and its high one. -/
theorem toBytes_cons (u : UInt16) (units : List UInt16) :
    toBytes (u :: units) =
      UInt8.ofNat (u.toNat % 256) :: UInt8.ofNat (u.toNat / 256 % 256) :: toBytes units :=
  rfl

/-- A unit has two bytes. -/
theorem length_toBytes (units : List UInt16) : (toBytes units).length = units.length * 2 := by
  induction units with
  | nil => rfl
  | cons u units ih =>
    rw [toBytes_cons, List.length_cons, List.length_cons, ih, List.length_cons]
    omega

/-- The first units are the first bytes, twice as many. -/
theorem toBytes_take (units : List UInt16) (n : Nat) :
    toBytes (units.take n) = (toBytes units).take (n * 2) := by
  induction units generalizing n with
  | nil => simp [toBytes]
  | cons u units ih =>
    cases n with
    | zero => rfl
    | succ n =>
      rw [List.take_succ_cons, toBytes_cons, ih, toBytes_cons, Nat.add_one_mul,
        List.take_succ_cons, List.take_succ_cons]

/-- The low and the high byte of a unit make up the unit. -/
theorem low_or_high (u : UInt16) :
    (UInt8.ofNat (u.toNat % 256)).toUInt16 |||
      ((UInt8.ofNat (u.toNat / 256 % 256)).toUInt16 <<< 8) = u := by
  have below := u.toNat_lt
  have low : (UInt8.ofNat (u.toNat % 256)).toUInt16.toNat = u.toNat % 256 := by
    rw [UInt8.toNat_toUInt16, UInt8.toNat_ofNat', Nat.mod_eq_of_lt (by omega)]
  have high : ((UInt8.ofNat (u.toNat / 256 % 256)).toUInt16 <<< 8).toNat
      = (u.toNat / 256) <<< 8 := by
    rw [UInt16.toNat_shiftLeft, UInt8.toNat_toUInt16, UInt8.toNat_ofNat', Nat.shiftLeft_eq,
      Nat.shiftLeft_eq]
    show u.toNat / 256 % 256 % 2 ^ 8 * 2 ^ 8 % 2 ^ 16 = _
    omega
  refine UInt16.toNat_inj.1 ?_
  rw [UInt16.toNat_or, low, high, Nat.or_comm, ← Nat.shiftLeft_add_eq_or_of_lt (by omega),
    Nat.shiftLeft_eq]
  omega

/-- Units are read back from their bytes. -/
theorem ofBytes_toBytes (units : List UInt16) : ofBytes (toBytes units) = units := by
  induction units with
  | nil => rfl
  | cons u units ih =>
    rw [toBytes_cons, ofBytes, low_or_high, ih]

/-! ## Units and characters -/

/-- High surrogates by their range. -/
theorem isHigh_iff (u : UInt16) : isHigh u = true ↔ 0xD800 ≤ u.toNat ∧ u.toNat < 0xDC00 := by
  simp [isHigh, UInt16.le_iff_toNat_le, UInt16.lt_iff_toNat_lt]

/-- Low surrogates by their range. -/
theorem isLow_iff (u : UInt16) : isLow u = true ↔ 0xDC00 ≤ u.toNat ∧ u.toNat < 0xE000 := by
  simp [isLow, UInt16.le_iff_toNat_le, UInt16.lt_iff_toNat_lt]

/-- A unit that is no surrogate is read as the character of its number. -/
theorem decode_cons_of_plain {u : UInt16} (high : isHigh u = false) (low : isLow u = false)
    (r : List UInt16) : decode (u :: r) = Char.ofNat u.toNat :: decode r := by
  cases r with
  | nil => simp [decode, high, low]
  | cons v r => simp [decode, high, low]

/-- Two surrogates that belong together are read as one character. -/
theorem decode_cons_of_pair {u v : UInt16} (high : isHigh u = true) (low : isLow v = true)
    (r : List UInt16) : decode (u :: v :: r) = pair u v :: decode r := by
  simp [decode, high, low]

/-- The first half of a pair is no character where the second one is missing. -/
theorem decode_singleton_of_high {u : UInt16} (high : isHigh u = true) :
    decode [u] = [replacement] := by
  simp [decode, high]

/-- A character has one unit that is no surrogate, or two surrogates that belong together. -/
theorem encodeChar_cases (c : Char) :
    (∃ u, encodeChar c = [u] ∧ isHigh u = false ∧ isLow u = false ∧ Char.ofNat u.toNat = c) ∨
      ∃ u v, encodeChar c = [u, v] ∧ isHigh u = true ∧ isLow v = true ∧ pair u v = c := by
  have valid : c.toNat < 0xD800 ∨ 0xDFFF < c.toNat ∧ c.toNat < 0x110000 := c.valid
  have size : UInt16.size = 0x10000 := rfl
  by_cases short : c.toNat < 0x10000
  · refine .inl ⟨UInt16.ofNat c.toNat, if_pos short, ?_⟩
    have number : (UInt16.ofNat c.toNat).toNat = c.toNat := UInt16.toNat_ofNat_of_lt' short
    simp only [Bool.eq_false_iff, ne_eq, isHigh_iff, isLow_iff, number, Char.ofNat_toNat, and_true]
    omega
  · have high : (UInt16.ofNat (0xD800 + (c.toNat - 0x10000) / 0x400)).toNat
        = 0xD800 + (c.toNat - 0x10000) / 0x400 := UInt16.toNat_ofNat_of_lt' (by omega)
    have low : (UInt16.ofNat (0xDC00 + (c.toNat - 0x10000) % 0x400)).toNat
        = 0xDC00 + (c.toNat - 0x10000) % 0x400 := UInt16.toNat_ofNat_of_lt' (by omega)
    refine .inr ⟨_, _, if_neg short, ?_⟩
    simp only [isHigh_iff, isLow_iff, pair, high, low]
    refine ⟨by omega, by omega, ?_⟩
    have number : 0x10000 + (0xD800 + (c.toNat - 0x10000) / 0x400 - 0xD800) * 0x400
        + (0xDC00 + (c.toNat - 0x10000) % 0x400 - 0xDC00) = c.toNat := by omega
    rw [number, Char.ofNat_toNat]

/-- The empty text has no units. -/
@[simp] theorem encode_nil : encode [] = [] := rfl

/-- The units of a text are those of its characters, one after the other. -/
@[simp] theorem encode_cons (c : Char) (s : List Char) :
    encode (c :: s) = encodeChar c ++ encode s :=
  List.flatMap_cons

/-- The units of two texts in a row are in a row. -/
@[simp] theorem encode_append (s t : List Char) : encode (s ++ t) = encode s ++ encode t :=
  List.flatMap_append

/-! ## Texts that are cut short -/

/-- What the first units of a text are read as: the characters that end within the limit, and U+FFFD
for the one that the limit splits. -/
def cut : Nat → List Char → List Char
  | _, [] => []
  | limit, c :: s =>
    if (encodeChar c).length ≤ limit then c :: cut (limit - (encodeChar c).length) s
    else if limit = 0 then [] else [replacement]

/-- Whether a limit falls between the units of one character of a text. -/
def Splits (limit : Nat) (s : List Char) : Prop :=
  ∃ ahead c behind, s = ahead ++ c :: behind ∧
    (encode ahead).length < limit ∧ limit < (encode (ahead ++ [c])).length

/-- The first units of a text are read character by character. -/
theorem decode_take_encode (limit : Nat) (s : List Char) :
    decode ((encode s).take limit) = cut limit s := by
  induction s generalizing limit with
  | nil => rw [encode_nil, List.take_nil, cut, decode]
  | cons c s ih =>
    rw [encode_cons, List.take_append, cut]
    obtain ⟨u, units, high, low, same⟩ | ⟨u, v, units, high, low, same⟩ := encodeChar_cases c
    · rw [units]
      cases limit with
      | zero => simp [decode]
      | succ limit => simp [decode_cons_of_plain high low, same, ih]
    · rw [units]
      rcases limit with _ | _ | limit
      · simp [decode]
      · simp [decode_singleton_of_high high]
      · simp [decode_cons_of_pair high low, same, ih]

/-- A text that fits is whole. -/
theorem cut_of_length_le {limit : Nat} {s : List Char} (fits : (encode s).length ≤ limit) :
    cut limit s = s := by
  induction s generalizing limit with
  | nil => rfl
  | cons c s ih =>
    rw [encode_cons, List.length_append] at fits
    rw [cut, if_pos (by omega), ih (by omega)]

/-- The units of a text are read as the text. -/
theorem decode_encode (s : List Char) : decode (encode s) = s := by
  have whole := decode_take_encode (encode s).length s
  rwa [List.take_length, cut_of_length_le (Nat.le_refl _)] at whole

/-- What a text is cut short to has as many units as the limit allows, if the text has that many. A
character that is split leaves one unit to U+FFFD, which needs one. -/
theorem length_encode_cut (limit : Nat) (s : List Char) :
    (encode (cut limit s)).length = min limit (encode s).length := by
  induction s generalizing limit with
  | nil => exact (Nat.min_zero limit).symm
  | cons c s ih =>
    rw [cut, encode_cons, List.length_append]
    split
    · have rest := ih (limit - (encodeChar c).length)
      rw [encode_cons, List.length_append]
      omega
    · have units : (encodeChar c).length = 1 ∨ (encodeChar c).length = 2 := by
        obtain ⟨u, units, -⟩ | ⟨u, v, units, -⟩ := encodeChar_cases c <;> simp [units]
      split
      · show 0 = _
        omega
      · show 1 = _
        omega

/-- Behind the characters ahead of the one that the limit splits stands U+FFFD. -/
theorem cut_of_between {limit : Nat} {ahead behind : List Char} {c : Char}
    (before : (encode ahead).length < limit)
    (within : limit < (encode (ahead ++ [c])).length) :
    cut limit (ahead ++ c :: behind) = ahead ++ [replacement] := by
  induction ahead generalizing limit with
  | nil =>
    rw [List.nil_append, encode_cons, encode_nil, List.append_nil] at within
    rw [List.nil_append, cut, if_neg (by omega), if_neg (Nat.ne_zero_of_lt before),
      List.nil_append]
  | cons a ahead ih =>
    simp only [List.cons_append, encode_cons, List.length_append] at before within
    rw [List.cons_append, cut, if_pos (by omega), ih (by omega) (by omega), List.cons_append]

/-- What a text is cut short to is a beginning of the text, unless the limit splits a character. -/
theorem cut_prefix_iff (limit : Nat) (s : List Char) : cut limit s <+: s ↔ ¬ Splits limit s := by
  refine ⟨?_, fun whole => ?_⟩
  · rintro isBeginning ⟨ahead, c, behind, rfl, before, within⟩
    rw [cut_of_between before within, List.prefix_append_right_inj] at isBeginning
    -- the split character would be U+FFFD, which has a single unit
    obtain rfl : replacement = c := (List.cons_prefix_cons.1 isBeginning).1
    have single : (encodeChar replacement).length = 1 := rfl
    simp only [encode_append, encode_cons, encode_nil, List.append_nil, List.length_append,
      single] at within
    omega
  · induction s generalizing limit with
    | nil => exact List.prefix_rfl
    | cons c s ih =>
      rw [cut]
      split
      case isTrue fits =>
        refine List.cons_prefix_cons.2 ⟨rfl, ih _ ?_⟩
        rintro ⟨ahead, d, behind, rfl, before, within⟩
        refine whole ⟨c :: ahead, d, behind, rfl, ?_, ?_⟩
        · rw [encode_cons, List.length_append]
          omega
        · rw [List.cons_append, encode_cons, List.length_append]
          omega
      case isFalse beyond =>
        split
        case isTrue => exact List.nil_prefix
        case isFalse positive =>
          refine absurd ⟨[], c, s, rfl, Nat.pos_of_ne_zero positive, ?_⟩ whole
          rw [List.nil_append, encode_cons, encode_nil, List.append_nil]
          omega

end HeapScope.Text.Utf16
