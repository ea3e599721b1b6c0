import NovelScript.Json.Reader
import NovelScript.Proofs.Decimal.ReadBack

/-!
# Lexemes read back — strings and numbers in front of what follows them

The reader undoes the printer on its smallest parts. A string ends at its closing quote, so it is
read back whatever follows. A number has no end of its own: it is read back in front of a text that
does not go on with it (`Closed`), and so is every text that is read as a number when it stands
alone.

## What is proved

`readString_quote`, `Number.read_wholeText`: strings, and whole numbers that fit sixty-four bits.
`Number.read_append`: what is read alone is read in front of a closed text.
-/

set_option autoImplicit false

namespace NovelScript.Json

/-! ## Strings -/

/-- One escaped character is read as the character, in front of whatever follows. -/
theorem readStringFrom_escape (c : Char) (rest : List Char) :
    readStringFrom false .plain (escape c ++ rest) =
      (readStringFrom false .plain rest).map fun (s, rest) => (c :: s, rest) := by
  unfold escape
  split
  next same => subst same; rfl
  split
  next same => subst same; rfl
  split
  next same => subst same; rfl
  split
  next same => subst same; rfl
  split
  next same => subst same; rfl
  split
  next same => subst same; rfl
  split
  next same => subst same; rfl
  split
  next control =>
    -- Two zeros and the two digits of the code, which is no surrogate.
    have high := hexValue?_hexDigit (c.toNat / 16) (by omega)
    have low := hexValue?_hexDigit (c.toNat % 16) (by omega)
    have code : c.toNat / 16 * 16 + c.toNat % 16 = c.toNat := by omega
    have below : ¬ (0xDC00 ≤ c.toNat ∧ c.toNat ≤ 0xDFFF) := by omega
    have above : ¬ (0xD800 ≤ c.toNat ∧ c.toNat ≤ 0xDBFF) := by omega
    have zero : hexValue? '0' = some 0 := rfl
    simp [readStringFrom, zero, high, low, code, closeEscape, below, above]
  next quote backslash _ _ _ _ _ printed =>
    rw [List.singleton_append, readStringFrom, if_neg quote, if_neg backslash, if_neg printed]

/-- A string is read back in front of whatever follows its closing quote. -/
theorem readString_quote (text : String) (rest : List Char) :
    readString (text.toList.flatMap escape ++ '"' :: rest) = .ok (text, rest) := by
  have characters : ∀ cs : List Char,
      readStringFrom false .plain (cs.flatMap escape ++ '"' :: rest) = .ok (cs, rest) := by
    intro cs
    induction cs with
    | nil => rfl
    | cons c cs ih => rw [List.flatMap_cons, List.append_assoc, readStringFrom_escape, ih]; rfl
  rw [readString, characters]
  simp [Except.map]

end NovelScript.Json

namespace NovelScript.Number

/-! ## Numbers -/

/-- Whether a character can go on with a number. -/
def goesOn (c : Char) : Bool := (digit? c).isSome || c == '.' || c == 'e' || c == 'E'

/-- A text that does not go on with a number in front of it. -/
def Closed (text : List Char) : Prop := ∀ c ∈ text.head?, goesOn c = false

/-- The digits at the front of a text stay what they are in front of a closed text. -/
theorem spanDigits_append {text rest : List Char} (closed : Closed rest) :
    spanDigits (text ++ rest) = ((spanDigits text).1, (spanDigits text).2 ++ rest) := by
  induction text with
  | nil =>
    cases rest with
    | nil => rfl
    | cons c rest =>
      have none := closed c rfl
      simp only [goesOn, Bool.or_eq_false_iff, Option.isSome_eq_false_iff,
        Option.isNone_iff_eq_none] at none
      have front : spanDigits (c :: rest) = ([], c :: rest) := by rw [spanDigits, none.1.1.1]
      exact front
  | cons c text ih =>
    rw [List.cons_append, spanDigits, spanDigits]
    cases digit? c with
    | some d => rw [ih]
    | none => rfl

variable {negative : Bool} {significand left : Nat} {power : Int} {n : Number}
  {text rest : List Char}

/-- What is made of a number does not depend on what follows it. -/
theorem map_rest {x : Except ReadFault Number} {tail : List Char}
    (alone : x.map (fun m => (m, tail)) = .ok (n, [])) (rest : List Char) :
    tail = [] ∧ x.map (fun m => (m, rest)) = .ok (n, rest) := by
  cases x with
  | error fault => cases alone
  | ok m =>
    cases alone
    exact ⟨rfl, rfl⟩

/-- A sign is that of a text, if there is one, whatever follows the text. -/
theorem exponentSign_append (some : text ≠ []) :
    exponentSign (text ++ rest) = ((exponentSign text).1, (exponentSign text).2 ++ rest) := by
  cases text with
  | nil => exact absurd rfl some
  | cons c text =>
    by_cases minus : c = '-'
    · subst minus; rfl
    by_cases plus : c = '+'
    · subst plus; rfl
    have unsigned : ∀ behind, exponentSign (c :: behind) = (false, c :: behind) := by
      intro behind
      unfold exponentSign
      split
      next same => exact absurd (List.cons.inj same).1 minus
      next same => exact absurd (List.cons.inj same).1 plus
      next => rfl
    rw [List.cons_append, unsigned, unsigned]
    rfl

theorem readExponent_append (closed : Closed rest)
    (alone : readExponent negative significand power text = .ok (n, [])) :
    readExponent negative significand power (text ++ rest) = .ok (n, rest) := by
  have some : text ≠ [] := by
    rintro rfl
    cases alone
  unfold readExponent at alone ⊢
  rw [exponentSign_append some]
  dsimp only at alone ⊢
  rw [spanDigits_append closed]
  rcases span : spanDigits (exponentSign text).2 with ⟨digits, tail⟩
  rw [span] at alone
  cases digits with
  | nil => cases alone
  | cons d digits =>
    dsimp only at alone ⊢
    cases value : exponentValue? 0 (d :: digits) with
    | some e =>
      rw [value] at alone
      obtain ⟨rfl, whole⟩ := map_rest alone rest
      exact whole
    | none =>
      rw [value] at alone
      dsimp only at alone ⊢
      split
      next large => rw [if_pos large] at alone; cases alone
      next small =>
        rw [if_neg small] at alone
        cases alone
        rfl

/-- A closed text is read as the end of a decimal behind its significand. -/
theorem readPower_closed (closed : Closed rest) :
    readPower negative significand power rest =
      (ofParts negative significand power).map (·, rest) := by
  unfold readPower
  split
  next => exact absurd (closed _ rfl) (by decide)
  next => exact absurd (closed _ rfl) (by decide)
  next => rfl

theorem readPower_append (closed : Closed rest)
    (alone : readPower negative significand power text = .ok (n, [])) :
    readPower negative significand power (text ++ rest) = .ok (n, rest) := by
  unfold readPower at alone
  split at alone
  next => exact readExponent_append closed alone
  next => exact readExponent_append closed alone
  next =>
    obtain ⟨rfl, whole⟩ := map_rest alone rest
    exact (readPower_closed closed).trans whole

theorem readFraction_append (closed : Closed rest)
    (alone : readFraction negative significand power text = .ok (n, [])) :
    readFraction negative significand power (text ++ rest) = .ok (n, rest) := by
  unfold readFraction at alone ⊢
  rw [spanDigits_append closed]
  rcases span : spanDigits text with ⟨digits, tail⟩
  rw [span] at alone
  cases digits with
  | nil => cases alone
  | cons d digits => exact readPower_append closed alone

/-- A closed text is read as the end of a number behind its digits. -/
theorem readTail_closed (closed : Closed rest) :
    readTail negative significand left rest =
      if left = 0 then .ok (ofSignificand negative significand, rest)
      else (ofParts negative significand left).map (·, rest) := by
  unfold readTail
  split
  next => exact absurd (closed _ rfl) (by decide)
  next => exact absurd (closed _ rfl) (by decide)
  next => exact absurd (closed _ rfl) (by decide)
  next => rfl

theorem readTail_append (closed : Closed rest)
    (alone : readTail negative significand left text = .ok (n, [])) :
    readTail negative significand left (text ++ rest) = .ok (n, rest) := by
  unfold readTail at alone
  split at alone
  next => exact readFraction_append closed alone
  next => exact readExponent_append closed alone
  next => exact readExponent_append closed alone
  next =>
    split at alone
    next whole =>
      cases alone
      rw [List.nil_append, readTail_closed closed, if_pos whole]
    next more =>
      obtain ⟨rfl, outcome⟩ := map_rest alone rest
      rw [List.nil_append, readTail_closed closed, if_neg more, outcome]

theorem readUnsigned_append (closed : Closed rest)
    (alone : readUnsigned negative text = .ok (n, [])) :
    readUnsigned negative (text ++ rest) = .ok (n, rest) := by
  unfold readUnsigned at alone ⊢
  rw [spanDigits_append closed]
  rcases span : spanDigits text with ⟨digits, tail⟩
  rw [span] at alone
  dsimp only at alone ⊢
  split at alone
  next => cases alone
  next => cases alone
  next empty leading same =>
    cases same
    split
    next none => cases none; exact (empty rfl).elim
    next zeros => cases zeros; exact (leading _ _ rfl).elim
    next same => cases same; exact readTail_append closed alone

theorem sign_of_ne {c : Char} (unsigned : c ≠ '-') (text : List Char) :
    sign (c :: text) = (false, c :: text) := by
  unfold sign
  split
  next same => exact absurd (List.cons.inj same).1 unsigned
  next => rfl

/-- A text that is read as a number alone is read as that number in front of a closed text. -/
theorem read_append (closed : Closed rest) (alone : read text = .ok (n, [])) :
    read (text ++ rest) = .ok (n, rest) := by
  cases text with
  | nil => cases alone
  | cons c text =>
    by_cases minus : c = '-'
    · subst minus
      exact readUnsigned_append closed alone
    · unfold read at alone ⊢
      rw [sign_of_ne minus] at alone
      rw [List.cons_append, sign_of_ne minus]
      exact readUnsigned_append closed alone

/-! ## Whole numbers -/

/-- The value of a character that is a digit. -/
def digitValue (c : Char) : Nat := c.toNat - 48

/-- Digits are spanned to their end. -/
theorem spanDigits_digital {digits : List Char} (digital : Digital digits) :
    spanDigits digits = (digits.map digitValue, []) := by
  induction digits with
  | nil => rfl
  | cons c rest ih =>
    obtain ⟨first, others⟩ := List.forall_mem_cons.mp digital
    have value : digit? c = some (digitValue c) := by
      unfold Char.isDigit at first
      unfold digit?
      rw [if_pos]
      · rfl
      · exact first
    rw [spanDigits, value, ih others]
    rfl

/-- More digits make no smaller number. -/
theorem le_ofDigitChars (digits : List Char) (start : Nat) :
    start ≤ Nat.ofDigitChars 10 digits start := by
  induction digits generalizing start with
  | nil => exact Nat.le_refl start
  | cons c rest ih =>
    rw [Nat.ofDigitChars_cons]
    exact Nat.le_trans (by omega) (ih _)

/-- A significand takes all digits whose number still fits. -/
theorem absorb_digital {digits : List Char} {start : Nat}
    (fits : Nat.ofDigitChars 10 digits start ≤ maxSignificand) :
    absorb start (digits.map digitValue) = (Nat.ofDigitChars 10 digits start, 0) := by
  induction digits generalizing start with
  | nil => rfl
  | cons c rest ih =>
    have next : start * 10 + digitValue c = 10 * start + (c.toNat - '0'.toNat) := by
      rw [Nat.mul_comm]
      rfl
    rw [Nat.ofDigitChars_cons] at fits ⊢
    rw [List.map_cons, absorb, next, if_pos (Nat.le_trans (le_ofDigitChars rest _) fits), ih fits]

/-- No number but zero is written with a leading zero. -/
theorem head_repr {n : Nat} (positive : 0 < n) {first : Char} {others : List Char}
    (shape : (Nat.repr n).toList = first :: others) : digitValue first ≠ 0 := by
  induction n using Nat.strongRecOn generalizing others with
  | ind n ih =>
    by_cases small : n < 10
    · rw [Nat.repr_of_lt small] at shape
      obtain ⟨rfl, -⟩ := List.cons.inj (show [n.digitChar] = first :: others by simpa using shape)
      have values : ∀ n < 10, digitValue n.digitChar = n := by decide
      rw [values n small]
      exact Nat.pos_iff_ne_zero.mp positive
    · obtain ⟨head, rest, front, -⟩ := exists_repr_eq_cons (n / 10)
      rw [Nat.repr_of_ge (Nat.le_of_not_lt small), String.toList_append, front,
        List.cons_append] at shape
      obtain ⟨rfl, -⟩ := List.cons.inj shape
      exact ih (n / 10) (by omega) (by omega) front

/-- The digits of a number are read as its significand. -/
theorem readUnsigned_repr {n : Nat} (fits : n ≤ maxSignificand) :
    readUnsigned negative (Nat.repr n).toList = .ok (ofSignificand negative n, []) := by
  have whole := digitsNumber_repr n
  unfold digitsNumber at whole
  have absorbed := @absorb_digital (Nat.repr n).toList 0 (by rw [whole]; exact fits)
  obtain ⟨first, others, shape, -⟩ := exists_repr_eq_cons n
  unfold readUnsigned
  rw [spanDigits_digital (digital_repr n)]
  split
  next none =>
    rw [shape] at none
    cases none
  next zeros =>
    -- A zero in front of another digit: the number is not zero, nor does it begin with one.
    rw [shape, List.map_cons] at zeros
    obtain ⟨zero, more⟩ := List.cons.inj (Prod.mk.inj zeros).1
    rcases Nat.eq_zero_or_pos n with rfl | positive
    · obtain ⟨-, rfl⟩ := List.cons.inj (show ['0'] = first :: others from shape)
      cases more
    · exact absurd zero (head_repr positive shape)
  next same =>
    cases same
    dsimp only
    rw [absorbed, whole]
    rfl

/-- A whole number that fits sixty-four bits is read back when it stands alone. -/
theorem read_wholeText {n : Int} (low : -0x8000000000000000 ≤ n) (high : n ≤ 0xFFFFFFFFFFFFFFFF) :
    read (Json.wholeText n).toList = .ok (.whole n, []) := by
  cases n with
  | ofNat n =>
    obtain ⟨first, others, shape, digital⟩ := exists_repr_eq_cons n
    have unsigned : sign (Nat.repr n).toList = (false, (Nat.repr n).toList) := by
      have digit := digital first List.mem_cons_self
      rw [shape]
      exact sign_of_ne (fun minus => by rw [minus] at digit; cases digit) others
    have fits : n ≤ maxSignificand := Int.ofNat_le.mp high
    rw [Json.wholeText, read, unsigned]
    exact readUnsigned_repr fits
  | negSucc n =>
    have small : n + 1 ≤ 0x8000000000000000 := by omega
    have negative : ofSignificand true (n + 1) = .whole (Int.negSucc n) := by
      rw [ofSignificand, if_pos rfl, if_pos (by simpa using small)]
      rfl
    have fits : n + 1 ≤ maxSignificand := Nat.le_trans small (by decide)
    rw [Json.wholeText, String.toList_append, ← negative]
    exact readUnsigned_repr fits

end NovelScript.Number
