import NovelScript.Expr.Text
import NovelScript.Variable.Table

/-!
# Words — what numbers and made-up names are spelled with

A number and a made-up name are spelled with letters, digits and points alone, but for the sign of
a number; no operator, bracket, comma, quote or access mark is among these characters. So wherever a
number or a name ends in source text, the text itself shows it: a word is followed by the end or by
a character that no word holds (`takeWhile_word`).

Names are made up from scope and id, and no two ids have the same digits, so in one table a name
belongs to one variable (`eq_of_displayName_eq`).
-/

set_option autoImplicit false

namespace NovelScript.Source

/-- The characters of words. -/
def isWordChar (c : Char) : Bool := c.isAlphanum || c == '.'

/-- Some characters of words. -/
def Word (cs : List Char) : Prop := cs ≠ [] ∧ ∀ c ∈ cs, isWordChar c = true

/-- What follows a word: the end, or a character that does not go on with it. -/
def EndsWord (rest : List Char) : Prop := ∀ c ∈ rest.head?, isWordChar c = false

/-- Where a word ends is where its characters do. -/
theorem takeWhile_word {word rest : List Char} (h : Word word) (ends : EndsWord rest) :
    (word ++ rest).takeWhile isWordChar = word ∧ (word ++ rest).dropWhile isWordChar = rest := by
  rw [List.takeWhile_append_of_pos h.2, List.dropWhile_append_of_pos h.2]
  cases rest with
  | nil => exact ⟨List.append_nil word, rfl⟩
  | cons c rest =>
    have stop : ¬ isWordChar c = true := by
      rw [ends c rfl]
      exact Bool.false_ne_true
    rw [List.takeWhile_cons_of_neg stop, List.dropWhile_cons_of_neg stop]
    exact ⟨List.append_nil word, rfl⟩

/-- A word begins with a character of its own. -/
theorem Word.exists_cons {word : List Char} (h : Word word) :
    ∃ c cs, word = c :: cs ∧ isWordChar c = true := by
  obtain ⟨some, all⟩ := h
  cases word with
  | nil => exact absurd rfl some
  | cons c cs => exact ⟨c, cs, rfl, all c List.mem_cons_self⟩

/-- A word may begin with further characters of words. -/
theorem Word.append_left {front word : List Char} (h : Word word)
    (front' : ∀ c ∈ front, isWordChar c = true) : Word (front ++ word) := by
  refine ⟨List.append_ne_nil_of_right_ne_nil front h.1, fun c hc => ?_⟩
  rcases List.mem_append.mp hc with hc | hc
  · exact front' c hc
  · exact h.2 c hc

/-- A word may go on with further characters of words. -/
theorem Word.append_right {word back : List Char} (h : Word word)
    (back' : ∀ c ∈ back, isWordChar c = true) : Word (word ++ back) := by
  refine ⟨List.append_ne_nil_of_left_ne_nil h.1 back, fun c hc => ?_⟩
  rcases List.mem_append.mp hc with hc | hc
  · exact h.2 c hc
  · exact back' c hc

/-! ## Digits -/

/-- The digits of a number are a word. -/
theorem word_repr (n : Nat) : Word (Nat.repr n).toList := by
  rw [Nat.toList_repr]
  refine ⟨Nat.toDigits_ne_nil, fun c hc => ?_⟩
  have digit : c.isDigit = true := Nat.isDigit_of_mem_toDigits (by decide) (by decide) hc
  simp only [isWordChar, Char.isAlphanum, digit, Bool.or_true, Bool.true_or]

/-- Zeros are characters of words. -/
theorem isWordChar_of_mem_zeros {n : Nat} : ∀ c ∈ (zeros n).toList, isWordChar c = true := by
  intro c hc
  rw [zeros, String.toList_ofList] at hc
  rw [List.eq_of_mem_replicate hc]
  decide

/-- Digits with a point among them are a word. -/
theorem word_positional (d : Digits) : Word (d.positional "").toList := by
  have digits := word_repr d.coefficient
  have part : ∀ n, ∀ c ∈ (Nat.repr d.coefficient).toList.drop n, isWordChar c = true :=
    fun n c hc => digits.2 c (List.mem_of_mem_drop hc)
  have point : ∀ c ∈ ".".toList, isWordChar c = true := List.all_eq_true.mp rfl
  have zeroPoint : ∀ c ∈ "0.".toList, isWordChar c = true := List.all_eq_true.mp rfl
  unfold Digits.positional
  split
  · simp only [String.toList_append, String.toList_ofList]
    exact (digits.append_right isWordChar_of_mem_zeros).append_right (List.all_eq_true.mp rfl)
  · next n _ =>
    dsimp only
    split
    · next places =>
      simp only [String.toList_append, String.toList_ofList]
      have whole : Word ((Nat.repr d.coefficient).toList.take
          ((Nat.repr d.coefficient).toList.length - (n + 1))) := by
        refine ⟨fun none => ?_, fun c hc => digits.2 c (List.mem_of_mem_take hc)⟩
        have length := congrArg List.length none
        rw [List.length_take, List.length_nil] at length
        omega
      exact (whole.append_right point).append_right (part _)
    · simp only [String.toList_append, String.toList_ofList]
      refine digits.append_left fun c hc => ?_
      rcases List.mem_append.mp hc with hc | hc
      · exact zeroPoint c hc
      · exact isWordChar_of_mem_zeros c hc

/-! ## Numbers -/

/-- A word, perhaps behind a minus sign. -/
def Numeral (cs : List Char) : Prop :=
  ∃ negated word, Word word ∧ cs = (minusIf negated).toList ++ word

/-- A whole number is a numeral. -/
theorem numeral_wholeText (n : Int) : Numeral (Json.wholeText n).toList := by
  cases n with
  | ofNat n => exact ⟨false, _, word_repr n, rfl⟩
  | negSucc n =>
    refine ⟨true, _, word_repr (n + 1), ?_⟩
    rw [Json.wholeText, String.toList_append]
    rfl

/-- A decimal in source form is a numeral; the words of infinity and of what is no number are
too. -/
theorem numeral_plain (x : Binary64) : Numeral (DecimalStyle.plain.write x).toList := by
  have words : ∀ s ∈ ["NaN", "inf", "0"], Word s.toList := by
    intro s hs
    simp only [List.mem_cons, List.not_mem_nil, or_false] at hs
    rcases hs with rfl | rfl | rfl <;> exact ⟨by decide, List.all_eq_true.mp rfl⟩
  have unsigned : Word (DecimalStyle.plain.unsigned x).toList := by
    unfold DecimalStyle.unsigned
    split
    · exact words "NaN" (by decide)
    · exact words "inf" (by decide)
    · exact words "0" (by decide)
    · exact word_positional _
  unfold DecimalStyle.write
  split
  · exact ⟨false, _, words "NaN" (by decide), rfl⟩
  · refine ⟨x.isNegative, _, unsigned, ?_⟩
    rw [String.toList_append]
    rfl

/-! ## Names -/

/-- Whether a variable is declared under a name; an empty one counts as none. -/
def hasName (v : Variable) : Bool := v.name.any fun name => !name.isEmpty

/-- Without a name a variable is shown under the made-up one. -/
theorem displayName_toList {v : Variable} (h : hasName v = false) :
    v.displayName.toList = v.scope.letter :: (Nat.repr v.id.toNat).toList := by
  have madeUp : v.displayName = Variable.displayName.madeUp v := by
    unfold Variable.displayName
    split
    · next name given =>
      have empty : name.isEmpty = true := by
        rw [hasName, given, Option.any_some, Bool.not_eq_false'] at h
        exact h
      rw [empty]
      rfl
    · rfl
  rw [madeUp, Variable.displayName.madeUp, String.toList_append, String.toList_singleton]
  rfl

/-- A made-up name is a word. -/
theorem word_displayName {v : Variable} (h : hasName v = false) : Word v.displayName.toList := by
  rw [displayName_toList h]
  refine Word.append_left (word_repr v.id.toNat) (fun c hc => ?_ : ∀ c ∈ [v.scope.letter], _)
  rw [List.mem_singleton.mp hc]
  cases v.scope <;> decide

/-- No two ids make up the same name, so a name belongs to one variable of a table. -/
theorem eq_of_displayName_eq {table : VariableTable} {v w : Variable} (hv : v ∈ table.toList)
    (hw : w ∈ table.toList) (unnamed : ∀ v ∈ table.toList, hasName v = false)
    (same : v.displayName.toList = w.displayName.toList) : v = w := by
  rw [displayName_toList (unnamed v hv), displayName_toList (unnamed w hw)] at same
  have digits := (List.cons.inj same).2
  rw [Nat.toList_repr, Nat.toList_repr] at digits
  have ids : v.id.toNat = w.id.toNat := by
    rw [← @Nat.ofDigitChars_ten_toDigits v.id.toNat, digits, Nat.ofDigitChars_ten_toDigits]
  have found := (table.get?_eq_some_iff v.id v).mpr ⟨hv, rfl⟩
  rw [(table.get?_eq_some_iff v.id w).mpr ⟨hw, (UInt16.toNat_inj.mp ids).symm⟩] at found
  exact (Option.some.inj found).symm

end NovelScript.Source
