import NovelScript.Decimal.Style
import NovelScript.Proofs.Decimal.Rounding

/-!
# Reading back — the text of a decimal determines it

A written decimal has one point at most and one exponent at most, so the digits it was laid out from
can be read off again: not digit by digit, since zeros may have been added behind them, but as the
number that they stand for (`Digits.read`). Shortest digits that stand for one number belong to one
absolute value, and the sign is the first character; so of the finite decimals no two are written
alike.

## What is proved

`DecimalStyle.eq_of_write_eq`: in each of the styles of this library, finite decimals of one text
are one decimal.
-/

set_option autoImplicit false

namespace NovelScript

/-! ## The reader -/

/-- The number in a row of digits. -/
def digitsNumber (digits : List Char) : Nat := Nat.ofDigitChars 10 digits 0

/-- The digits on both sides of a point, and how far the point shifts an exponent. -/
def Digits.readPlain (cs : List Char) (exponent : Int) : Digits :=
  let fraction := (cs.dropWhile (· != '.')).drop 1
  ⟨digitsNumber (cs.takeWhile (· != '.') ++ fraction), exponent - fraction.length⟩

/-- An exponent behind its sign. -/
def readExponent : List Char → Int
  | [] => 0
  | sign :: digits => if sign = '-' then -(digitsNumber digits : Int) else digitsNumber digits

/-- Digits that stand for the number that a text without a sign is. -/
def Digits.read (cs : List Char) : Digits :=
  readPlain (cs.takeWhile (· != 'e')) (readExponent ((cs.dropWhile (· != 'e')).drop 1))

/-- What stands before the first of a character, and what from it on. -/
theorem splits_at {stop : Char} {front : List Char} (h : stop ∉ front) (rest : List Char)
    (begins : ∀ c ∈ rest.head?, c = stop) :
    (front ++ rest).takeWhile (· != stop) = front ∧
      (front ++ rest).dropWhile (· != stop) = rest := by
  have pass : ∀ c ∈ front, (c != stop) = true := fun c hc =>
    bne_iff_ne.mpr fun eq => h (eq ▸ hc)
  rw [List.takeWhile_append_of_pos pass, List.dropWhile_append_of_pos pass]
  cases rest with
  | nil => simp
  | cons c rest => simp [begins c rfl]

namespace Digits

theorem readPlain_point {whole : List Char} (h : '.' ∉ whole) (fraction : List Char)
    (exponent : Int) : readPlain (whole ++ '.' :: fraction) exponent =
      ⟨digitsNumber (whole ++ fraction), exponent - fraction.length⟩ := by
  obtain ⟨front, rest⟩ := splits_at h ('.' :: fraction) (by simp)
  rw [readPlain, front, rest, List.drop_succ_cons, List.drop_zero]

theorem readPlain_whole {whole : List Char} (h : '.' ∉ whole) (exponent : Int) :
    readPlain whole exponent = ⟨digitsNumber whole, exponent⟩ := by
  obtain ⟨front, rest⟩ := splits_at h [] (by simp)
  rw [List.append_nil] at front rest
  rw [readPlain, front, rest, List.drop_nil, List.append_nil, List.length_nil, Int.natCast_zero,
    sub_zero]

theorem read_plain {cs : List Char} (h : 'e' ∉ cs) : read cs = readPlain cs 0 := by
  obtain ⟨front, rest⟩ := splits_at h [] (by simp)
  rw [List.append_nil] at front rest
  rw [read, front, rest, List.drop_nil, readExponent]

theorem read_exponent {cs : List Char} (h : 'e' ∉ cs) (exponent : List Char) :
    read (cs ++ 'e' :: exponent) = readPlain cs (readExponent exponent) := by
  obtain ⟨front, rest⟩ := splits_at h ('e' :: exponent) (by simp)
  rw [read, front, rest, List.drop_succ_cons, List.drop_zero]

end Digits

/-! ## Digits -/

/-- Whether a text is digits alone. -/
def Digital (cs : List Char) : Prop := ∀ c ∈ cs, c.isDigit = true

theorem Digital.not_mem {cs : List Char} (h : Digital cs) {c : Char} (hc : c.isDigit = false) :
    c ∉ cs := by
  intro member
  rw [h c member] at hc
  cases hc

theorem Digital.append {cs ds : List Char} (hc : Digital cs) (hd : Digital ds) :
    Digital (cs ++ ds) :=
  List.forall_mem_append.mpr ⟨hc, hd⟩

theorem digital_repr (n : Nat) : Digital (Nat.repr n).toList := by
  intro c hc
  rw [Nat.toList_repr] at hc
  exact Nat.isDigit_of_mem_toDigits (by decide) (by decide) hc

/-- The digits of a number begin with one of them. -/
theorem exists_repr_eq_cons (n : Nat) :
    ∃ first others, (Nat.repr n).toList = first :: others ∧ Digital (first :: others) := by
  obtain ⟨first, others, shape⟩ : ∃ first others, (Nat.repr n).toList = first :: others :=
    List.exists_cons_of_ne_nil (by rw [Nat.toList_repr]; exact Nat.toDigits_ne_nil)
  exact ⟨first, others, shape, shape ▸ digital_repr n⟩

theorem digital_zeros (n : Nat) : Digital (zeros n).toList := by
  intro c hc
  rw [zeros, String.toList_ofList] at hc
  rw [List.eq_of_mem_replicate hc]
  rfl

theorem length_zeros (n : Nat) : (zeros n).toList.length = n := by
  rw [zeros, String.toList_ofList, List.length_replicate]

theorem digitsNumber_repr (n : Nat) : digitsNumber (Nat.repr n).toList = n := by
  rw [digitsNumber, Nat.toList_repr, Nat.ofDigitChars_ten_toDigits]

theorem digitsNumber_append_zeros (cs : List Char) (n : Nat) :
    digitsNumber (cs ++ (zeros n).toList) = 10 ^ n * digitsNumber cs := by
  rw [digitsNumber, Nat.ofDigitChars_append, zeros, String.toList_ofList,
    Nat.ofDigitChars_replicate_zero, digitsNumber]

theorem digitsNumber_zeros_append (n : Nat) (cs : List Char) :
    digitsNumber ((zeros n).toList ++ cs) = digitsNumber cs := by
  rw [digitsNumber, Nat.ofDigitChars_append, zeros, String.toList_ofList,
    Nat.ofDigitChars_replicate_zero, Nat.mul_zero, digitsNumber]

/-! ## Layouts -/

namespace Digits

/-- Digits with a point among them stand for the digits, at the places behind the point. -/
theorem read_point {front back : List Char} (hf : Digital front) (hb : Digital back) :
    read (front ++ '.' :: back) = ⟨digitsNumber (front ++ back), -(back.length : Int)⟩ := by
  have noExponent : 'e' ∉ front ++ '.' :: back := by
    simp only [List.mem_append, List.mem_cons, not_or]
    exact ⟨hf.not_mem rfl, by decide, hb.not_mem rfl⟩
  rw [read_plain noExponent, readPlain_point (hf.not_mem rfl), zero_sub]

/-- A positional text stands for the number of its digits, whichever mark a whole number has. -/
theorem value_read_positional (d : Digits) {whole : String} (mark : whole = "" ∨ whole = ".0") :
    (read (d.positional whole).toList).value = d.value := by
  obtain ⟨coefficient, exponent⟩ := d
  have digits := digital_repr coefficient
  cases exponent with
  | ofNat n =>
    -- Zeros are added to the digits, so not the digits are read back but their number.
    have padded := digits.append (digital_zeros n)
    have number : value ⟨coefficient, .ofNat n⟩ = ((10 ^ n * coefficient : Nat) : ℚ) := by
      rw [value, Int.ofNat_eq_natCast, zpow_natCast]
      push_cast
      ring
    simp only [positional, String.toList_append, String.toList_ofList]
    rcases mark with rfl | rfl
    · rw [String.toList_empty, List.append_nil, read_plain (padded.not_mem rfl),
        readPlain_whole (padded.not_mem rfl), digitsNumber_append_zeros, digitsNumber_repr,
        number, value, zpow_zero, mul_one]
    · rw [show ".0".toList = '.' :: (zeros 1).toList from rfl, read_point padded (digital_zeros 1),
        digitsNumber_append_zeros, digitsNumber_append_zeros, digitsNumber_repr, length_zeros,
        number, value]
      push_cast
      rw [zpow_neg_one]
      ring
  | negSucc n =>
    simp only [positional]
    split
    next inside =>
      simp only [String.toList_append, String.toList_ofList, List.append_assoc,
        show ".".toList = ['.'] from rfl, List.singleton_append]
      have places : -((List.drop ((Nat.repr coefficient).toList.length - (n + 1))
          (Nat.repr coefficient).toList).length : Int) = Int.negSucc n := by
        rw [List.length_drop]
        omega
      rw [read_point (fun c hc => digits c (List.mem_of_mem_take hc))
        (fun c hc => digits c (List.mem_of_mem_drop hc)), List.take_append_drop, digitsNumber_repr,
        places]
    next outside =>
      simp only [String.toList_append, String.toList_ofList, List.append_assoc,
        show "0.".toList = (zeros 1).toList ++ ['.'] from rfl, List.nil_append, List.cons_append]
      have places : -(((zeros (n + 1 - (Nat.repr coefficient).toList.length)).toList ++
          (Nat.repr coefficient).toList).length : Int) = Int.negSucc n := by
        rw [List.length_append, length_zeros]
        omega
      rw [read_point (digital_zeros 1) ((digital_zeros _).append digits), digitsNumber_zeros_append,
        digitsNumber_zeros_append, digitsNumber_repr, places]

theorem readExponent_signed (n : Int) :
    readExponent ((if n < 0 then '-' else '+') :: (Nat.repr n.natAbs).toList) = n := by
  rw [readExponent, digitsNumber_repr]
  split
  next negative =>
    rw [if_pos rfl]
    omega
  next positive =>
    rw [if_neg (by decide)]
    omega

/-- One digit and the others behind a point stand for all of them, at the places of the others. -/
theorem readPlain_leading {first : Char} {others : List Char} (h : Digital (first :: others))
    (exponent : Int) :
    readPlain ([first] ++ (if others.isEmpty then "" else "." ++ String.ofList others).toList)
      exponent = ⟨digitsNumber (first :: others), exponent - others.length⟩ := by
  have leading : '.' ∉ [first] := by
    rw [List.mem_singleton]
    rintro rfl
    exact absurd (h '.' List.mem_cons_self) (by decide)
  cases others with
  | nil => rw [List.isEmpty_nil, if_pos rfl, String.toList_empty, List.append_nil,
      readPlain_whole leading, List.length_nil, Int.natCast_zero, sub_zero]
  | cons second others =>
    have point : ("." ++ String.ofList (second :: others)).toList = '.' :: second :: others := by
      simp
    rw [List.isEmpty_cons, if_neg Bool.false_ne_true, point, readPlain_point leading,
      List.singleton_append]

/-- A scientific text stands for its digits. -/
theorem read_scientific (d : Digits) : read d.scientific.toList = d := by
  obtain ⟨first, others, shape, digits⟩ := exists_repr_eq_cons d.coefficient
  have number := digitsNumber_repr d.coefficient
  rw [shape] at number
  have noExponent : 'e' ∉ [first] ++
      (if others.isEmpty then "" else "." ++ String.ofList others).toList := by
    have absent : 'e' ∉ first :: others := digits.not_mem rfl
    simp only [List.mem_cons, not_or] at absent
    cases others <;> simp_all
  have word : ∀ n : Int,
      (if n < 0 then "e-" else "e+").toList = ['e', if n < 0 then '-' else '+'] := by
    intro n
    split <;> rfl
  simp only [scientific, shape, List.take_succ_cons, List.take_zero, List.drop_succ_cons,
    List.drop_zero, String.toList_append, String.toList_ofList, word, List.append_assoc,
    List.cons_append, List.nil_append]
  rw [← List.singleton_append, ← List.append_assoc, read_exponent noExponent, readExponent_signed,
    readPlain_leading digits, number]
  rw [List.length_cons, Nat.add_sub_cancel, Int.add_sub_cancel]

/-- Every layout begins with a digit. -/
theorem head_positional (d : Digits) (whole : String) :
    ∃ c ∈ (d.positional whole).toList.head?, c.isDigit = true := by
  obtain ⟨first, others, shape, digits⟩ := exists_repr_eq_cons d.coefficient
  have digit := digits first List.mem_cons_self
  unfold positional
  split
  next => exact ⟨first, by simp [shape], digit⟩
  next n _ =>
    dsimp only
    split
    next inside =>
      refine ⟨first, ?_, digit⟩
      rw [shape] at inside ⊢
      obtain ⟨k, places⟩ : ∃ k, (first :: others).length - (n + 1) = k + 1 :=
        ⟨(first :: others).length - (n + 1) - 1, by omega⟩
      rw [places, List.take_succ_cons]
      simp
    next => exact ⟨'0', by simp, rfl⟩

theorem head_scientific (d : Digits) : ∃ c ∈ d.scientific.toList.head?, c.isDigit = true := by
  obtain ⟨first, others, shape, digits⟩ := exists_repr_eq_cons d.coefficient
  refine ⟨first, ?_, digits first List.mem_cons_self⟩
  simp [scientific, shape]

end Digits

/-! ## Styles -/

namespace DecimalStyle

variable {style : DecimalStyle} {x y : Binary64}

/-- The digits that the text of a finite decimal is laid out from. -/
def digits (style : DecimalStyle) (x : Binary64) : Digits :=
  match x.magnitude with
  | .finite significand exponent =>
    if significand = 0 then ⟨0, 0⟩
    else shortestDigits significand exponent x.isLowerEdge style.tie
  | _ => ⟨0, 0⟩

theorem unsigned_eq_layout (style : DecimalStyle) (h : x.isFinite = true) :
    style.unsigned x = (style.digits x).positional style.whole ∨
      style.unsigned x = (style.digits x).scientific := by
  obtain ⟨significand, exponent, magnitude, -⟩ := Binary64.exists_magnitude h
  cases significand with
  | zero =>
    refine .inl ?_
    simp only [unsigned, digits, magnitude, if_pos]
    rfl
  | succ n =>
    simp only [unsigned, digits, magnitude, if_neg n.succ_ne_zero]
    split
    · exact .inl rfl
    · exact .inr rfl

/-- The text of an absolute value stands for the number of its digits. -/
theorem value_read_unsigned (mark : style.whole = "" ∨ style.whole = ".0")
    (h : x.isFinite = true) :
    (Digits.read (style.unsigned x).toList).value = (style.digits x).value := by
  rcases style.unsigned_eq_layout h with positional | scientific
  · rw [positional, Digits.value_read_positional _ mark]
  · rw [scientific, Digits.read_scientific]

/-- Every absolute value begins with a digit. -/
theorem digit_unsigned (style : DecimalStyle) (h : x.isFinite = true) :
    ∃ c ∈ (style.unsigned x).toList.head?, c.isDigit = true := by
  rcases style.unsigned_eq_layout h with positional | scientific
  · rw [positional]
    exact Digits.head_positional _ _
  · rw [scientific]
    exact Digits.head_scientific _

/-- No absolute value begins with a sign. -/
theorem head_unsigned (style : DecimalStyle) (h : x.isFinite = true) :
    (style.unsigned x).toList.head? ≠ some '-' := by
  obtain ⟨c, first, digit⟩ := style.digit_unsigned h
  rintro minus
  rw [Option.mem_def, minus] at first
  cases first
  exact absurd digit (by decide)

/-- Digits of one number belong to one absolute value. -/
theorem magnitude_eq_of_digits_value_eq (hx : x.isFinite = true) (hy : y.isFinite = true)
    (same : (style.digits x).value = (style.digits y).value) : x.magnitude = y.magnitude := by
  obtain ⟨m, e, magnitude, zero⟩ := Binary64.exists_magnitude hx
  obtain ⟨m', e', magnitude', zero'⟩ := Binary64.exists_magnitude hy
  have none : Digits.value ⟨0, 0⟩ = 0 := by simp [Digits.value]
  simp only [digits, magnitude, magnitude'] at same
  rw [magnitude, magnitude', Magnitude.finite.injEq]
  by_cases hm : m = 0 <;> by_cases hm' : m' = 0
  · exact ⟨hm.trans hm'.symm, (zero hm).trans (zero' hm').symm⟩
  · have scaled := Binary64.scaled_of_magnitude magnitude' hm'
    have pos := scaled.pos_of_contains (contains_shortestDigits scaled style.tie)
    rw [if_pos hm, if_neg hm', none] at same
    exact absurd same pos.ne
  · have scaled := Binary64.scaled_of_magnitude magnitude hm
    have pos := scaled.pos_of_contains (contains_shortestDigits scaled style.tie)
    rw [if_neg hm, if_pos hm', none] at same
    exact absurd same pos.ne'
  · rw [if_neg hm, if_neg hm'] at same
    exact eq_of_shortestDigits_value_eq (Binary64.scaled_of_magnitude magnitude hm)
      (Binary64.scaled_of_magnitude magnitude' hm') same

theorem write_of_isFinite (style : DecimalStyle) (h : x.isFinite = true) :
    style.write x = (if x.isNegative then "-" else "") ++ style.unsigned x := by
  rw [write, Binary64.magnitude_of_isFinite h]

/-- A sign can be told from texts that begin with none. -/
theorem sign_inj {a b : Bool} {s t : String} (hs : s.toList.head? ≠ some '-')
    (ht : t.toList.head? ≠ some '-')
    (same : (if a then "-" else "") ++ s = (if b then "-" else "") ++ t) : a = b ∧ s = t := by
  cases a <;> cases b <;>
    simp only [if_pos, Bool.false_eq_true, if_false, String.empty_append] at same
  · exact ⟨rfl, same⟩
  · exact absurd (by simp [same]) hs
  · exact absurd (by simp [← same]) ht
  · exact ⟨rfl, (String.append_right_inj "-").mp same⟩

/-- In a style of this library no two finite decimals are written alike. -/
theorem eq_of_write_eq (mark : style.whole = "" ∨ style.whole = ".0") (hx : x.isFinite = true)
    (hy : y.isFinite = true) (same : style.write x = style.write y) : x = y := by
  rw [write_of_isFinite style hx, write_of_isFinite style hy] at same
  obtain ⟨sign, unsigned⟩ := sign_inj (style.head_unsigned hx) (style.head_unsigned hy) same
  have value : (style.digits x).value = (style.digits y).value := by
    rw [← value_read_unsigned mark hx, unsigned, value_read_unsigned mark hy]
  exact Binary64.eq_of_magnitude_eq hx hy sign (magnitude_eq_of_digits_value_eq hx hy value)

end DecimalStyle

end NovelScript
