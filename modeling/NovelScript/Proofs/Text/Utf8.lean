import NovelScript.Text.Encoding

/-!
# UTF-8 read back — the reader undoes the encoding

The encoding of a character is one to four bytes, and the reader gives the character back, whatever
follows. The bounds that the reader sets for the second byte never turn an encoded character away:
of three bytes they leave out the overlong forms and the surrogates, of four the overlong forms and
what lies past the last plane.

## What is proved

`Utf8.decode_encode`: reading the UTF-8 bytes of a text gives the text.
-/

set_option autoImplicit false

namespace NovelScript.Utf8

/-- The UTF-8 bytes of a text. -/
def encode (text : String) : List UInt8 := text.toList.flatMap String.utf8EncodeChar

/-- A text has as many UTF-8 bytes as its size says. -/
theorem length_encode (text : String) : (encode text).length = text.utf8ByteSize := by
  have size := String.size_toByteArray (s := String.ofList text.toList)
  rw [String.toByteArray_ofList, String.ofList_toList] at size
  rw [← size, List.utf8Encode, List.size_toByteArray]
  rfl

theorem toNat_byte {n : Nat} (h : n < 256) : (UInt8.ofNat n).toNat = n := by
  simp [Nat.mod_eq_of_lt h]

/-! ## Lead bytes -/

theorem opening_ascii {b : UInt8} (high : b.toNat < 0x80) :
    opening b = .character (Char.ofNat b.toNat) := by
  simp only [opening, UInt8.lt_iff_toNat_lt, UInt8.reduceToNat]
  rw [if_pos high]

theorem opening_two {b : UInt8} (low : 0xC2 ≤ b.toNat) (high : b.toNat < 0xE0) :
    opening b = .begun (.inside 0 0x80 0xBF (b.toNat - 0xC0)) := by
  simp only [opening, UInt8.lt_iff_toNat_lt, UInt8.reduceToNat]
  rw [if_neg (by omega), if_neg (by omega), if_pos high]

/-- A lead byte of three, with the bounds of the second. -/
theorem opening_three {b : UInt8} (low : 0xE0 ≤ b.toNat) (high : b.toNat < 0xF0) :
    opening b = .begun (.inside 1 (if b.toNat = 0xE0 then 0xA0 else 0x80)
      (if b.toNat = 0xED then 0x9F else 0xBF) (b.toNat - 0xE0)) := by
  simp only [opening, UInt8.lt_iff_toNat_lt, ← UInt8.toNat_inj, UInt8.reduceToNat]
  rw [if_neg (by omega), if_neg (by omega), if_neg (by omega)]
  -- Two lead bytes have a branch of their own.
  by_cases first : b.toNat = 0xE0
  · simp [first]
  · by_cases surrogates : b.toNat = 0xED
    · simp [surrogates]
    · rw [if_neg first, if_neg surrogates, if_pos high, if_neg first, if_neg surrogates]

/-- A lead byte of four, with the bounds of the second. -/
theorem opening_four {b : UInt8} (low : 0xF0 ≤ b.toNat) (high : b.toNat < 0xF5) :
    opening b = .begun (.inside 2 (if b.toNat = 0xF0 then 0x90 else 0x80)
      (if b.toNat = 0xF4 then 0x8F else 0xBF) (b.toNat - 0xF0)) := by
  simp only [opening, UInt8.lt_iff_toNat_lt, ← UInt8.toNat_inj, UInt8.reduceToNat]
  rw [if_neg (by omega), if_neg (by omega), if_neg (by omega), if_neg (by omega), if_neg (by omega),
    if_neg (by omega)]
  by_cases first : b.toNat = 0xF0
  · simp [first]
  · by_cases last : b.toNat = 0xF4
    · simp [last]
    · rw [if_neg first, if_pos (by omega), if_neg first, if_neg last]

/-! ## Later bytes -/

/-- A byte within the bounds goes on with the character that was begun. -/
theorem run_inside {owed bits : Nat} {low high b : UInt8} (lower : low.toNat ≤ b.toNat)
    (upper : b.toNat ≤ high.toNat) (rest : List UInt8) :
    run (.inside (owed + 1) low high bits) (b :: rest) =
      run (.inside owed 0x80 0xBF (bits * 64 + (b.toNat - 0x80))) rest := by
  have inBounds : (low ≤ b && b ≤ high) = true := by
    rw [Bool.and_eq_true, decide_eq_true_eq, decide_eq_true_eq, UInt8.le_iff_toNat_le,
      UInt8.le_iff_toNat_le]
    exact ⟨lower, upper⟩
  simp only [run, step, inBounds, if_true, List.nil_append]

/-- The last byte of a character completes it. -/
theorem run_last {bits : Nat} {b : UInt8} (lower : 0x80 ≤ b.toNat) (upper : b.toNat ≤ 0xBF)
    (rest : List UInt8) :
    run (.inside 0 0x80 0xBF bits) (b :: rest) =
      Char.ofNat (bits * 64 + (b.toNat - 0x80)) :: run .start rest := by
  have inBounds : ((0x80 : UInt8) ≤ b && b ≤ 0xBF) = true := by
    rw [Bool.and_eq_true, decide_eq_true_eq, decide_eq_true_eq, UInt8.le_iff_toNat_le,
      UInt8.le_iff_toNat_le]
    exact ⟨lower, upper⟩
  simp only [run, step, inBounds, if_true, List.cons_append, List.nil_append]

theorem run_begun {b : UInt8} {state : State} (h : opening b = .begun state) (rest : List UInt8) :
    run .start (b :: rest) = run state rest := by
  simp only [run, step, restart, h, List.nil_append]

/-! ## Characters -/

/-- The six low bits of a value, as a byte that goes on with a character. -/
theorem toNat_later (n : Nat) : (UInt8.ofNat (n % 64 + 128)).toNat = n % 64 + 128 :=
  toNat_byte (by omega)

theorem ofNat_eq (n : Nat) {m : Nat} (h : m = n) : Char.ofNat m = Char.ofNat n := congrArg _ h

theorem run_two {n : Nat} (low : 0x80 ≤ n) (high : n < 0x800) (rest : List UInt8) :
    run .start (.ofNat (n / 64 % 32 + 192) :: .ofNat (n % 64 + 128) :: rest) =
      Char.ofNat n :: run .start rest := by
  have lead : (UInt8.ofNat (n / 64 % 32 + 192)).toNat = n / 64 + 192 := by
    rw [toNat_byte (by omega)]
    omega
  have second := toNat_later n
  rw [run_begun (opening_two (by omega) (by omega)), run_last (by omega) (by omega),
    ofNat_eq n (by omega)]

/-- Three bytes, unless they were a surrogate. -/
theorem run_three {n : Nat} (low : 0x800 ≤ n) (high : n < 0x10000)
    (valid : n < 0xD800 ∨ 0xDFFF < n) (rest : List UInt8) :
    run .start (.ofNat (n / 4096 % 16 + 224) :: .ofNat (n / 64 % 64 + 128) ::
        .ofNat (n % 64 + 128) :: rest) =
      Char.ofNat n :: run .start rest := by
  have lead : (UInt8.ofNat (n / 4096 % 16 + 224)).toNat = n / 4096 + 224 := by
    rw [toNat_byte (by omega)]
    omega
  have second := toNat_later (n / 64)
  have third := toNat_later n
  rw [run_begun (opening_three (by omega) (by omega)), run_inside, run_last (by omega) (by omega),
    ofNat_eq n (by omega)]
  · split <;> simp only [UInt8.reduceToNat] <;> omega
  · split <;> simp only [UInt8.reduceToNat] <;> omega

/-- Four bytes, up to the last plane. -/
theorem run_four {n : Nat} (low : 0x10000 ≤ n) (high : n < 0x110000) (rest : List UInt8) :
    run .start (.ofNat (n / 262144 % 8 + 240) :: .ofNat (n / 4096 % 64 + 128) ::
        .ofNat (n / 64 % 64 + 128) :: .ofNat (n % 64 + 128) :: rest) =
      Char.ofNat n :: run .start rest := by
  have lead : (UInt8.ofNat (n / 262144 % 8 + 240)).toNat = n / 262144 + 240 := by
    rw [toNat_byte (by omega)]
    omega
  have second := toNat_later (n / 4096)
  have third := toNat_later (n / 64)
  have fourth := toNat_later n
  rw [run_begun (opening_four (by omega) (by omega)), run_inside, run_inside,
    run_last (by omega) (by omega), ofNat_eq n (by omega)]
  · simp only [UInt8.reduceToNat]
    omega
  · simp only [UInt8.reduceToNat]
    omega
  · split <;> simp only [UInt8.reduceToNat] <;> omega
  · split <;> simp only [UInt8.reduceToNat] <;> omega

/-- The encoding of a character is read as the character, whatever follows. -/
theorem run_encodeChar (c : Char) (rest : List UInt8) :
    run .start (String.utf8EncodeChar c ++ rest) = c :: run .start rest := by
  have valid : c.toNat < 0xD800 ∨ 0xDFFF < c.toNat ∧ c.toNat < 0x110000 := c.valid
  have value : c.val.toNat = c.toNat := rfl
  have back : Char.ofNat c.toNat = c := Char.ofNat_toNat c
  simp only [String.utf8EncodeChar, value]
  split
  next one =>
    have byte : (UInt8.ofNat c.toNat).toNat = c.toNat := toNat_byte (by omega)
    simp only [List.cons_append, List.nil_append, run, step, restart, opening_ascii
      (b := UInt8.ofNat c.toNat) (by omega), byte, back]
  next =>
    split
    next two => exact (run_two (by omega) (by omega) rest).trans (by rw [back])
    next =>
      split
      next three => exact (run_three (by omega) (by omega) (by omega) rest).trans (by rw [back])
      next four => exact (run_four (by omega) (by omega) rest).trans (by rw [back])

/-- Reading the UTF-8 bytes of a text gives the text. -/
theorem decode_encode (text : String) : TextEncoding.utf8.decode (encode text) = text := by
  have read : ∀ cs : List Char, run .start (cs.flatMap String.utf8EncodeChar) = cs := by
    intro cs
    induction cs with
    | nil => rfl
    | cons c cs ih => rw [List.flatMap_cons, run_encodeChar, ih]
  rw [TextEncoding.decode, encode, decode, read, String.ofList_toList]

end NovelScript.Utf8
