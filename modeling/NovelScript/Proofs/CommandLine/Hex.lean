import NovelScript.CommandLine.Hex
import NovelScript.Proofs.Results

/-!
# Hexadecimal input — which texts spell which bytes

A text spells bytes if it is made of the two digits of each, in either case, and of white space,
which may stand anywhere, also between the two digits of a byte. That is what the input is said to
be. What is read is a little more: a pair is read as a number is, and a number may have a plus sign
in front. So the high digit of a pair may be a plus sign, which counts nothing.

## What is proved

`hexValue?_eq_some_iff` and `byte?_eq_some_iff`: what a digit and what a pair is read as.
`readPairs_eq_ok_iff`: pairs are read as the bytes that they spell, signs allowed.
`exists_spells_iff`: which characters spell bytes. `parse_iff`: which texts are read, and which of
them are hexadecimal. `parse_plus`: a text that is read and is not hexadecimal.
-/

set_option autoImplicit false

namespace NovelScript.Hex

/-! ## What is spelled -/

/-- The character is a digit in base sixteen, in lower or upper case, and has the value. -/
def DigitOf (c : Char) (value : Nat) : Prop :=
  value < 16 ∧ (c = value.digitChar ∨ c = value.digitChar.toUpper)

/-- The character is a digit with the value, or a plus sign, which counts nothing. -/
def SignOrDigitOf (c : Char) (value : Nat) : Prop := DigitOf c value ∨ c = '+' ∧ value = 0

instance (c : Char) (value : Nat) : Decidable (DigitOf c value) :=
  inferInstanceAs (Decidable (_ ∧ _))

/-- The characters spell the bytes, two characters to a byte: the high digit, or what else `High`
allows in its place, and the low digit. -/
inductive Spells (High : Char → Nat → Prop) : List Char → List UInt8 → Prop
  | nil : Spells High [] []
  | cons {high low : Char} {first second : Nat} {byte : UInt8} {rest : List Char}
      {bytes : List UInt8} :
      High high first → DigitOf low second → byte.toNat = 16 * first + second →
      Spells High rest bytes → Spells High (high :: low :: rest) (byte :: bytes)

/-- The characters of a text that are not white space. -/
def marks (text : String) : List Char := text.toList.filter fun c => !isBlank c

/-- The two digits of a byte, in lower case. -/
def digitsOf (byte : UInt8) : List Char :=
  [(byte.toNat / 16).digitChar, (byte.toNat % 16).digitChar]

variable {High : Char → Nat → Prop} {chars : List Char} {bytes : List UInt8}

theorem Spells.length_eq (spells : Spells High chars bytes) : chars.length = 2 * bytes.length := by
  induction spells with
  | nil => rfl
  | cons _ _ _ _ ih =>
    rw [List.length_cons, List.length_cons, List.length_cons, ih]
    omega

/-- Bytes are spelled by their digits. -/
theorem spells_digitsOf (bytes : List UInt8) : Spells DigitOf (bytes.flatMap digitsOf) bytes := by
  induction bytes with
  | nil => exact .nil
  | cons byte rest ih =>
    have small := byte.toNat_lt
    exact .cons ⟨by omega, .inl rfl⟩ ⟨by omega, .inl rfl⟩ (by omega) ih

theorem SignOrDigitOf.small {c : Char} {value : Nat} (is : SignOrDigitOf c value) :
    value < 16 := by
  rcases is with digit | ⟨-, rfl⟩
  · exact digit.1
  · decide

/-- A plus sign is no digit. -/
theorem not_digitOf_plus (value : Nat) : ¬ DigitOf '+' value := by
  rintro ⟨small, is⟩
  revert value
  decide

/-- Two values below sixteen make a byte. -/
theorem toNat_pair {first second : Nat} (small : first < 16) (small' : second < 16) :
    (UInt8.ofNat (first * 16 + second)).toNat = 16 * first + second := by
  rw [UInt8.toNat_ofNat_of_lt' (by simp only [UInt8.size]; omega), Nat.mul_comm]

/-- Digits in pairs spell bytes. -/
theorem exists_spells_of_digits : ∀ {chars : List Char}, chars.length % 2 = 0 →
    (∀ c ∈ chars, ∃ value, DigitOf c value) → ∃ bytes, Spells DigitOf chars bytes
  | [], _, _ => ⟨[], .nil⟩
  | [_], odd, _ => nomatch odd
  | high :: low :: rest, even, digits => by
    obtain ⟨⟨first, isHigh⟩, digits⟩ := List.forall_mem_cons.mp digits
    obtain ⟨⟨second, isLow⟩, digits⟩ := List.forall_mem_cons.mp digits
    have even' : rest.length % 2 = 0 := (Nat.add_mod_right ..).symm.trans even
    obtain ⟨bytes, spells⟩ := exists_spells_of_digits even' digits
    exact ⟨_, .cons isHigh isLow (toNat_pair isHigh.1 isLow.1) spells⟩

/-- Characters spell bytes exactly if they are digits and come in pairs. -/
theorem exists_spells_iff :
    (∃ bytes, Spells DigitOf chars bytes) ↔
      chars.length % 2 = 0 ∧ ∀ c ∈ chars, ∃ value, DigitOf c value := by
  refine ⟨?_, fun ⟨even, digits⟩ => exists_spells_of_digits even digits⟩
  rintro ⟨bytes, spells⟩
  refine ⟨by have := spells.length_eq; omega, ?_⟩
  induction spells with
  | nil => exact List.forall_mem_nil _
  | cons high low _ _ ih =>
    exact List.forall_mem_cons.mpr ⟨⟨_, high⟩, List.forall_mem_cons.mpr ⟨⟨_, low⟩, ih⟩⟩

/-- Where signs are allowed, the digits are what is spelled without a plus sign. -/
theorem spells_digits_iff :
    Spells DigitOf chars bytes ↔ Spells SignOrDigitOf chars bytes ∧ '+' ∉ chars := by
  constructor
  · intro spells
    induction spells with
    | nil => exact ⟨.nil, List.not_mem_nil⟩
    | cons high low value _ ih =>
      refine ⟨.cons (.inl high) low value ih.1, fun sign => ?_⟩
      rcases List.mem_cons.mp sign with rfl | sign
      · exact not_digitOf_plus _ high
      rcases List.mem_cons.mp sign with rfl | sign
      · exact not_digitOf_plus _ low
      · exact ih.2 sign
  · rintro ⟨spells, free⟩
    induction spells with
    | nil => exact .nil
    | cons high low value _ ih =>
      have isDigit := high.resolve_right fun ⟨sign, _⟩ => free (sign ▸ List.mem_cons_self)
      exact .cons isDigit low value (ih fun sign =>
        free (List.mem_cons_of_mem _ (List.mem_cons_of_mem _ sign)))

/-! ## What is read -/

/-- A digit is read as its value, and nothing else is read. -/
theorem hexValue?_eq_some_iff {c : Char} {value : Nat} :
    Json.hexValue? c = some value ↔ DigitOf c value := by
  constructor
  · intro read
    have ascii : ∀ code < 103, ∀ value ∈ Json.hexValue? (Char.ofNat code),
        DigitOf (Char.ofNat code) value := by decide
    have bounded : ∀ {last : Char}, c ≤ last → last.toNat < 103 → c.toNat < 103 :=
      fun below small => Nat.lt_of_le_of_lt (UInt32.le_iff_toNat_le.mp below) small
    have low : c.toNat < 103 := by
      unfold Json.hexValue? at read
      simp only [Bool.and_eq_true, decide_eq_true_eq] at read
      split at read
      next range => exact bounded range.2 (by decide)
      split at read
      next range => exact bounded range.2 (by decide)
      split at read
      next range => exact bounded range.2 (by decide)
      next => cases read
    have is := ascii c.toNat low
    rw [Char.ofNat_toNat] at is
    exact is value read
  · rintro ⟨small, is⟩
    have digits : ∀ value < 16, Json.hexValue? value.digitChar = some value ∧
        Json.hexValue? value.digitChar.toUpper = some value := by decide
    rcases is with rfl | rfl
    · exact (digits value small).1
    · exact (digits value small).2

/-- The high digit of a pair may be a plus sign. -/
theorem high_eq_some_iff {c : Char} {value : Nat} :
    (if c = '+' then some 0 else Json.hexValue? c) = some value ↔ SignOrDigitOf c value := by
  unfold SignOrDigitOf
  split
  next sign =>
    subst sign
    simp [not_digitOf_plus, eq_comm]
  next noSign => simp [hexValue?_eq_some_iff, noSign]

/-- A pair is read as the byte that it spells. -/
theorem byte?_eq_some_iff {high low : Char} {byte : UInt8} :
    byte? high low = some byte ↔
      ∃ first second, SignOrDigitOf high first ∧ DigitOf low second ∧
        byte.toNat = 16 * first + second := by
  constructor
  · intro read
    unfold byte? at read
    split at read
    next first second isHigh isLow =>
      obtain rfl := Option.some.inj read
      have isHigh := high_eq_some_iff.mp isHigh
      have isLow := hexValue?_eq_some_iff.mp isLow
      exact ⟨first, second, isHigh, isLow, toNat_pair isHigh.small isLow.1⟩
    next => cases read
  · rintro ⟨first, second, isHigh, isLow, value⟩
    unfold byte?
    rw [high_eq_some_iff.mpr isHigh, hexValue?_eq_some_iff.mpr isLow]
    refine congrArg some (UInt8.toNat_inj.mp ?_)
    rw [toNat_pair isHigh.small isLow.1, value]

/-- Characters in pairs are read as the bytes that they spell. -/
theorem readPairs_eq_ok_iff : ∀ {chars : List Char} {bytes : List UInt8},
    chars.length % 2 = 0 → (readPairs chars = .ok bytes ↔ Spells SignOrDigitOf chars bytes)
  | [], bytes, _ => by
    constructor
    · rintro ⟨⟩
      exact .nil
    · rintro ⟨⟩
      rfl
  | [_], _, odd => nomatch odd
  | high :: low :: rest, bytes, even => by
    have even' : rest.length % 2 = 0 := (Nat.add_mod_right ..).symm.trans even
    constructor
    · intro read
      rw [readPairs] at read
      split at read
      next byte found =>
        obtain ⟨first, second, isHigh, isLow, value⟩ := byte?_eq_some_iff.mp found
        obtain ⟨bytes, others, rfl⟩ := exists_of_map_eq_ok read
        exact .cons isHigh isLow value ((readPairs_eq_ok_iff even').mp others)
      next => cases read
    · rintro (_ | ⟨isHigh, isLow, value, spells⟩)
      rw [readPairs, byte?_eq_some_iff.mpr ⟨_, _, isHigh, isLow, value⟩,
        (readPairs_eq_ok_iff even').mpr spells]
      rfl

/-- A text is read as bytes exactly if its characters spell them, apart from white space and with
signs allowed. -/
theorem parse_eq_ok_iff {text : String} :
    parse text = .ok bytes ↔ Spells SignOrDigitOf (marks text) bytes := by
  change (if (marks text).length % 2 = 0 then readPairs (marks text) else .error .oddLength) =
    .ok bytes ↔ _
  split
  next even => exact readPairs_eq_ok_iff even
  next odd =>
    refine ⟨nofun, fun spells => absurd ?_ odd⟩
    rw [spells.length_eq, Nat.mul_mod_right]

/-- A text is read as bytes exactly if its characters, apart from white space, spell them, where a
plus sign may stand for the high digit of a byte; every other text is an error. Without plus signs
these are the hexadecimal texts: an even number of digits in either case. So the digits of bytes
are read as the bytes, wherever white space stands between them. -/
theorem parse_iff (text : String) :
    (∀ bytes, parse text = .ok bytes ↔ Spells SignOrDigitOf (marks text) bytes) ∧
    (∀ bytes, Spells DigitOf (marks text) bytes ↔ parse text = .ok bytes ∧ '+' ∉ marks text) ∧
    ((∃ bytes, Spells DigitOf (marks text) bytes) ↔
      (marks text).length % 2 = 0 ∧ ∀ c ∈ marks text, ∃ value, DigitOf c value) ∧
    ((∃ error, parse text = .error error) ↔
      ∀ bytes, ¬ Spells SignOrDigitOf (marks text) bytes) ∧
    ∀ bytes, marks text = bytes.flatMap digitsOf → parse text = .ok bytes := by
  refine ⟨fun _ => parse_eq_ok_iff, fun _ => ?_, exists_spells_iff, ?_, fun bytes written => ?_⟩
  · rw [parse_eq_ok_iff]
    exact spells_digits_iff
  · simp only [← parse_eq_ok_iff]
    cases parse text with
    | error error => simp
    | ok bytes => simp
  · rw [parse_eq_ok_iff, written]
    exact (spells_digits_iff.mp (spells_digitsOf bytes)).1

/-- Three bytes with white space between digits and inside a byte, one of it not of ASCII. -/
theorem parse_iff_spaced :
    marks "4 9\n04\u3000f\tf " = [0x49, 0x04, 0xFF].flatMap digitsOf ∧
      parse "4 9\n04\u3000f\tf " = .ok [0x49, 0x04, 0xFF] := by
  have written : marks "4 9\n04\u3000f\tf " = [0x49, 0x04, 0xFF].flatMap digitsOf := by decide
  exact ⟨written, (parse_iff _).2.2.2.2 _ written⟩

/-- The text `+1` is read as the byte one, but is no hexadecimal text. -/
theorem parse_plus :
    parse "+1" = .ok [1] ∧ ∀ bytes, ¬ Spells DigitOf (marks "+1") bytes := by
  refine ⟨rfl, fun bytes spells => ?_⟩
  exact (spells_digits_iff.mp spells).2 (by decide)

end NovelScript.Hex
