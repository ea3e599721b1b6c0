import NovelScript.Json.Record
import NovelScript.Proofs.Json.Loops

/-!
# Acceptance — readers that take the writings of a value

A reader accepts a value as `x` if it reads every writing of the value as `x`, blanks in front of it
included, and leaves the text behind it alone (`Accepts`). Each reader is given the values it
accepts: a reader of a type those that a member of the type is written as, the reader of free values
all that are within its bounds (`Readable`). For a decimal the bound is that it reads back by
itself; a whole number has to fit sixty-four bits, and the keys of an object stand in order.

## What is proved

`accepts_readValue`: a readable value is read as itself. `readDocument_of_accepts`: a reader that
accepts a value reads both of its printed forms.
-/

set_option autoImplicit false

namespace NovelScript

open Json (Written Blank)

/-- The reader takes every writing of the value for `x`. -/
def JsonReader.Accepts {α : Type} (reader : JsonReader α) (room : Nat) (value : Json) (x : α) :
    Prop :=
  ∀ ⦃text gap rest : List Char⦄, Written value text → Blank gap → Number.Closed rest →
    reader room (gap ++ (text ++ rest)) = .ok (x, rest)

namespace Number

theorem begins_digit {c : Char} (digit : c.isDigit = true) : begins c = true := by
  unfold Char.isDigit at digit
  have value : digit? c = some (c.toNat - 48) := if_pos digit
  rw [begins, value]
  exact Bool.or_true _

theorem ne_of_begins {c d : Char} (begins : begins c = true) (other : Number.begins d = false) :
    c ≠ d := by
  rintro rfl
  rw [begins] at other
  cases other

/-- A number begins as one, and is read in front of a closed text. -/
theorem exists_front {text : List Char} {n : Number} (alone : read text = .ok (n, [])) :
    ∃ c behind, text = c :: behind ∧ begins c = true ∧
      ∀ rest, Closed rest → read (c :: (behind ++ rest)) = .ok (n, rest) := by
  cases text with
  | nil => cases alone
  | cons c behind =>
    refine ⟨c, behind, rfl, ?_, fun rest closed => read_append closed alone⟩
    by_cases minus : c = '-'
    · subst minus; rfl
    cases digit : digit? c with
    | some d => rw [begins, digit]; exact Bool.or_true _
    | none =>
      -- Nothing is spanned, so the number lacks a digit.
      have span : spanDigits (c :: behind) = ([], c :: behind) := by rw [spanDigits, digit]
      rw [read, sign_of_ne minus] at alone
      dsimp only at alone
      rw [readUnsigned, span] at alone
      cases alone

end Number

namespace Json

variable {room : Nat} {gap rest text : List Char} {c : Char}

/-! ## Where texts begin -/

theorem isSpace_of_begins (begins : Number.begins c = true) : isSpace c = false := by
  have ne : ∀ {d : Char}, Number.begins d = false → c ≠ d := Number.ne_of_begins begins
  simp only [isSpace, Bool.or_eq_false_iff, beq_eq_false_iff_ne]
  exact ⟨⟨⟨ne rfl, ne rfl⟩, ne rfl⟩, ne rfl⟩

theorem head_wholeText (n : Int) :
    ∃ c behind, (wholeText n).toList = c :: behind ∧ Number.begins c = true := by
  cases n with
  | ofNat n =>
    obtain ⟨c, behind, shape, digital⟩ := exists_repr_eq_cons n
    exact ⟨c, behind, shape, Number.begins_digit (digital c List.mem_cons_self)⟩
  | negSucc n => exact ⟨'-', _, by rw [wholeText, String.toList_append]; rfl, rfl⟩

/-- A decimal begins as a number, or is no number and written as `null`, perhaps behind a sign. -/
theorem head_write (x : Binary64) :
    ∃ c behind, (DecimalStyle.json.write x).toList = c :: behind ∧
      (Number.begins c = true ∨ c = 'n') := by
  have signed : ∀ s : String, (∃ c ∈ s.toList.head?, Number.begins c = true ∨ c = 'n') →
      ∃ c behind, ((if x.isNegative then "-" else "") ++ s).toList = c :: behind ∧
        (Number.begins c = true ∨ c = 'n') := by
    rintro s ⟨c, mem, begins⟩
    obtain ⟨behind, shape⟩ := List.head?_eq_some_iff.mp mem
    cases x.isNegative
    · exact ⟨c, behind, by simpa using shape, begins⟩
    · exact ⟨'-', s.toList, by simp, .inl rfl⟩
  cases finite : x.isFinite with
  | true =>
    rw [DecimalStyle.write_of_isFinite _ finite]
    obtain ⟨c, mem, digit⟩ := DecimalStyle.json.digit_unsigned finite
    exact signed _ ⟨c, mem, .inl (Number.begins_digit digit)⟩
  | false =>
    rcases Binary64.magnitude_of_not_isFinite finite with infinite | nan
    · have word : DecimalStyle.json.unsigned x = "null" := by
        rw [DecimalStyle.unsigned, infinite]
        rfl
      rw [DecimalStyle.write, infinite]
      exact signed _ ⟨'n', by rw [word]; rfl, .inr rfl⟩
    · have word : DecimalStyle.json.write x = "null" := by
        rw [DecimalStyle.write, nan]
        rfl
      exact ⟨'n', ['u', 'l', 'l'], by rw [word]; rfl, .inr rfl⟩

/-- No text of a value begins with a blank or the end of a list. -/
theorem Written.beginsItem {value : Json} (written : Written value text) : BeginsItem text := by
  have number : ∀ {c : Char}, Number.begins c = true → isSpace c = false ∧ c ≠ ']' :=
    fun begins => ⟨isSpace_of_begins begins, Number.ne_of_begins begins rfl⟩
  cases written with
  | null => exact ⟨_, _, rfl, rfl, by decide⟩
  | bool b => cases b <;> exact ⟨_, _, rfl, rfl, by decide⟩
  | int n =>
    obtain ⟨c, behind, shape, begins⟩ := head_wholeText n
    exact ⟨c, behind, shape, number begins⟩
  | decimal x =>
    obtain ⟨c, behind, shape, begins | rfl⟩ := head_write x
    · exact ⟨c, behind, shape, number begins⟩
    · exact ⟨_, behind, shape, rfl, by decide⟩
  | string | array | object => exact ⟨_, _, rfl, rfl, by decide⟩

/-! ## Readers of types -/

/-- A whole number within the bounds is accepted. -/
theorem accepts_readWhole {expected : String} {low high n : Int} (above : low ≤ n)
    (below : n ≤ high) (least : -0x8000000000000000 ≤ n) (greatest : n ≤ 0xFFFFFFFFFFFFFFFF) :
    (readWhole expected low high).Accepts room (.int n) n := by
  intro text gap rest written blank closed
  cases written
  obtain ⟨c, behind, shape, begins, read⟩ :=
    Number.exists_front (Number.read_wholeText least greatest)
  obtain ⟨_, _, same, token, -⟩ := (Written.int n).beginsItem
  rw [shape] at same
  cases same
  rw [readWhole, shape, List.cons_append, skipSpace_gap blank token]
  dsimp only
  rw [if_pos begins, read rest closed]
  exact if_pos ⟨above, below⟩

/-- A reader with its value changed accepts what the reader does. -/
theorem accepts_map {α β : Type} {reader : JsonReader α} {value : Json} {x : α}
    (accepts : reader.Accepts room value x) (f : α → β) :
    (JsonReader.map f reader).Accepts room value (f x) := by
  intro text gap rest written blank closed
  rw [JsonReader.map, accepts written blank closed]
  rfl

theorem accepts_readUInt8 (n : UInt8) : readUInt8.Accepts room (.int n.toNat) n := by
  have small := n.toNat_lt
  have accepts := @accepts_map room _ _ _ _ _
    (@accepts_readWhole room "u8" 0 255 n.toNat (by omega) (by omega) (by omega) (by omega))
    (UInt8.ofNat ·.toNat)
  rwa [Int.toNat_natCast, UInt8.ofNat_toNat] at accepts

theorem accepts_readUInt16 (n : UInt16) : readUInt16.Accepts room (.int n.toNat) n := by
  have small := n.toNat_lt
  have accepts := @accepts_map room _ _ _ _ _
    (@accepts_readWhole room "u16" 0 65535 n.toNat (by omega) (by omega) (by omega) (by omega))
    (UInt16.ofNat ·.toNat)
  rwa [Int.toNat_natCast, UInt16.ofNat_toNat] at accepts

theorem accepts_readUInt32 (n : UInt32) : readUInt32.Accepts room (.int n.toNat) n := by
  have small := n.toNat_lt
  have accepts := @accepts_map room _ _ _ _ _
    (@accepts_readWhole room "u32" 0 4294967295 n.toNat (by omega) (by omega) (by omega)
      (by omega))
    (UInt32.ofNat ·.toNat)
  rwa [Int.toNat_natCast, UInt32.ofNat_toNat] at accepts

theorem accepts_readInt32 (n : Int32) : readInt32.Accepts room (.int n.toInt) n := by
  have least := n.le_toInt
  have greatest := n.toInt_lt
  have accepts := @accepts_map room _ _ _ _ _
    (@accepts_readWhole room "i32" (-2147483648) 2147483647 n.toInt (by omega) (by omega) (by omega)
      (by omega))
    Int32.ofInt
  rwa [Int32.ofInt_toInt] at accepts

theorem accepts_readText (s : String) : readText.Accepts room (.string s) s := by
  intro text gap rest written blank closed
  cases written
  rw [readText, List.cons_append, skipSpace_gap blank rfl, List.append_assoc]
  exact readString_quote s rest

/-- `null` is accepted as nothing. -/
theorem accepts_readOptional_null {α : Type} (reader : JsonReader α) :
    (readOptional reader).Accepts room .null none := by
  intro text gap rest written blank closed
  cases written
  rw [readOptional, List.cons_append, skipSpace_gap blank rfl]
  rfl

/-- What a reader accepts is accepted as something, unless it begins as `null` does. -/
theorem accepts_readOptional {α : Type} {reader : JsonReader α} {value : Json} {x : α}
    (accepts : reader.Accepts room value x)
    (other : ∀ {text : List Char}, Written value text → ∀ behind, text ≠ 'n' :: behind) :
    (readOptional reader).Accepts room value (some x) := by
  intro text gap rest written blank closed
  have read := accepts written Blank.nil closed
  obtain ⟨c, behind, rfl, token, -⟩ := written.beginsItem
  rw [readOptional, List.cons_append, skipSpace_gap blank token]
  split
  next null =>
    obtain ⟨rfl, -⟩ := List.cons.inj null
    exact absurd rfl (other written behind)
  next =>
    rw [List.nil_append, List.cons_append] at read
    rw [read]
    rfl

/-- A text is accepted as something. -/
theorem accepts_readOptional_readText (s : String) :
    (readOptional readText).Accepts room (.string s) (some s) :=
  accepts_readOptional (accepts_readText s) fun written behind same => by
    cases written
    exact absurd (List.cons.inj same).1 (by decide)

/-- A word among known words is accepted as what it stands for. -/
theorem accepts_readWordOf {α : Type} {words : List (String × α)} {word : String} {x : α}
    (known : words.lookup word = some x) : (readWordOf words).Accepts room (.string word) x := by
  intro text gap rest written blank closed
  cases written
  have read : readKnownWord words (word.toList.flatMap escape ++ (['"'] ++ rest)) =
      .ok (x, rest) := by
    rw [readKnownWord, List.singleton_append, readString_quote]
    dsimp only
    rw [lookupWord, known]
    rfl
  rw [readWordOf, List.cons_append, skipSpace_gap blank rfl, List.append_assoc]
  exact read

/-- Items that are accepted are taken. -/
theorem takes_of_accepts {α : Type} {reader : JsonReader α} {value : Json} {x : α}
    (accepts : reader.Accepts room value x) (written : Written value text) :
    Takes (reader room) text x where
  begins := written.beginsItem
  read _ closed := accepts written Blank.nil closed

/-- The texts of items that are accepted are taken. -/
theorem takes_of_forall_accepts {α : Type} {reader : JsonReader α} {items : List Json}
    {xs : List α} {text : Json → List Char} (accepts : List.Forall₂ (reader.Accepts room) items xs)
    (written : ∀ item ∈ items, Written item (text item)) :
    List.Forall₂ (Takes (reader room)) (items.map text) xs := by
  induction accepts with
  | nil => exact .nil
  | cons first _ ih =>
    obtain ⟨head, others⟩ := List.forall_mem_cons.mp written
    exact .cons (takes_of_accepts first head) (ih others)

/-- A list of items that are accepted is accepted, one container deeper. -/
theorem accepts_readListOf {α : Type} {reader : JsonReader α} {items : List Json} {xs : List α}
    (accepts : List.Forall₂ (reader.Accepts room) items xs) :
    (readListOf reader).Accepts (room + 1) (.array items) xs := by
  intro text gap rest written blank closed
  cases written with
  | array blankItems blankLast written =>
    rw [readListOf, List.cons_append, skipSpace_gap blank rfl, List.append_assoc]
    exact readList_spread blankItems blankLast (takes_of_forall_accepts accepts written)

/-! ## Free values -/

/-- Values that are read back as themselves when `room` containers may be opened: the decimals have
a property, whole numbers fit sixty-four bits, and keys stand in order. -/
inductive Readable (P : Binary64 → Prop) : Nat → Json → Prop
  | null {room : Nat} : Readable P room .null
  | bool {room : Nat} (b : Bool) : Readable P room (.bool b)
  | int {room : Nat} {n : Int} : -0x8000000000000000 ≤ n → n ≤ 0xFFFFFFFFFFFFFFFF →
      Readable P room (.int n)
  | decimal {room : Nat} {x : Binary64} : P x → Readable P room (.decimal x)
  | string {room : Nat} (s : String) : Readable P room (.string s)
  | array {room : Nat} {items : List Json} : (∀ item ∈ items, Readable P room item) →
      Readable P (room + 1) (.array items)
  | object {room : Nat} {members : List (String × Json)} :
      members.Pairwise (fun m n => m.1 < n.1) → (∀ member ∈ members, Readable P room member.2) →
      Readable P (room + 1) (.object members)

/-- The decimal reads back when it stands alone. -/
def ReadsBack (x : Binary64) : Prop :=
  Number.read (DecimalStyle.json.write x).toList = .ok (.decimal x, [])

/-- A value that is no container is read by the reader of such values. -/
theorem readValue_scalar (blank : Blank gap) (token : isSpace c = false) (list : c ≠ '[')
    (object : c ≠ '\x7b') : readValue room (gap ++ c :: text) = readScalar (c :: text) := by
  cases room <;> rw [readValue, skipSpace_gap blank token] <;> split
  next same => exact absurd (List.cons.inj same).1 list
  next same => exact absurd (List.cons.inj same).1 object
  next => rfl
  next same => exact absurd (List.cons.inj same).1 list
  next same => exact absurd (List.cons.inj same).1 object
  next => rfl

/-- Behind its opening bracket a value is a list. -/
theorem readValue_list (blank : Blank gap) (room : Nat) (text : List Char) :
    readValue (room + 1) (gap ++ '[' :: text) =
      (readList false (readValue room) text).map fun (items, rest) => (.array items, rest) := by
  rw [readValue, skipSpace_gap blank rfl]
  rfl

/-- Behind its opening brace a value is an object. -/
theorem readValue_object (blank : Blank gap) (room : Nat) (text : List Char) :
    readValue (room + 1) (gap ++ '\x7b' :: text) =
      (readMembers false readString (readFreeMember (readValue room)) [] text).map
        fun (members, rest) => (.object members, rest) := by
  rw [readValue, skipSpace_gap blank rfl]
  rfl

/-- A number is read as a value. -/
theorem readValue_number {n : Number} (alone : Number.read text = .ok (n, [])) (blank : Blank gap)
    (closed : Number.Closed rest) :
    readValue room (gap ++ (text ++ rest)) = .ok (ofNumber n, rest) := by
  obtain ⟨c, behind, rfl, begins, read⟩ := Number.exists_front alone
  have ne : ∀ {d : Char}, Number.begins d = false → c ≠ d := Number.ne_of_begins begins
  rw [List.cons_append, readValue_scalar blank (isSpace_of_begins begins) (ne rfl) (ne rfl),
    readScalar, if_pos begins, read rest closed]
  · rfl
  · exact fun same => ne rfl same
  · exact fun same => ne rfl same
  · exact fun same => ne rfl same
  · exact fun same => ne rfl same

/-- A key behind all keys is put behind them. -/
theorem insertMember_last {members : List (String × Json)} {key : String} (value : Json)
    (before : ∀ member ∈ members, member.1 < key) :
    insertMember key value members = members ++ [(key, value)] := by
  induction members with
  | nil => rfl
  | cons member members ih =>
    obtain ⟨k, v⟩ := member
    obtain ⟨first, others⟩ := List.forall_mem_cons.mp before
    rw [insertMember, if_neg (String.lt_asymm first), if_neg (String.ne_of_lt first).symm,
      ih others]
    rfl

/-- Members in order of their keys are put behind one another. -/
theorem takesMembers_of_readable {reader : JsonReader Json} {between : List Char}
    (blank : Blank between) {text : Json → List Char} {front back : List (String × Json)}
    (ordered : (front ++ back).Pairwise fun m n => m.1 < n.1)
    (accepts : ∀ member ∈ back, reader.Accepts room member.2 member.2)
    (written : ∀ member ∈ back, Written member.2 (text member.2)) :
    TakesMembers (readFreeMember (reader room)) between front
      (back.map fun m => (m.1, text m.2)) (front ++ back) := by
  induction back generalizing front with
  | nil =>
    rw [List.append_nil]
    exact .done
  | cons member back ih =>
    obtain ⟨key, value⟩ := member
    obtain ⟨first, accepts⟩ := List.forall_mem_cons.mp accepts
    obtain ⟨head, written⟩ := List.forall_mem_cons.mp written
    have before : ∀ member ∈ front, member.1 < key := fun member mem =>
      (List.pairwise_append.mp ordered).2.2 member mem _ List.mem_cons_self
    have shape : front ++ (key, value) :: back = (front ++ [(key, value)]) ++ back := by simp
    rw [shape] at ordered ⊢
    refine .step (fun rest closed => ?_) (ih ordered accepts written)
    rw [readFreeMember, readColon_colon]
    dsimp only
    rw [show reader room (between ++ (text value ++ rest)) = _ from first head blank closed,
      ← insertMember_last value before]
    rfl

/-- A readable value is read as itself. -/
theorem accepts_readValue {value : Json} (readable : Readable ReadsBack room value) :
    readValue.Accepts room value value := by
  induction readable with
  | null =>
    intro text gap rest written blank closed
    cases written
    rw [List.cons_append, readValue_scalar blank rfl (by decide) (by decide)]
    rfl
  | bool b =>
    intro text gap rest written blank closed
    cases written
    cases b
    · exact readValue_scalar blank rfl (by decide) (by decide)
    · exact readValue_scalar blank rfl (by decide) (by decide)
  | int least greatest =>
    intro text gap rest written blank closed
    cases written
    exact readValue_number (Number.read_wholeText least greatest) blank closed
  | decimal reads =>
    intro text gap rest written blank closed
    cases written
    exact readValue_number reads blank closed
  | string s =>
    intro text gap rest written blank closed
    cases written
    rw [List.cons_append, readValue_scalar blank rfl (by decide) (by decide), List.append_assoc,
      readScalar, List.singleton_append, readString_quote]
    rfl
  | @array room items _ ih =>
    intro text gap rest written blank closed
    cases written with
    | array blankItems blankLast written =>
      have taken := takes_of_forall_accepts (List.forall₂_same.mpr ih) written
      rw [List.cons_append, readValue_list blank, List.append_assoc, List.singleton_append,
        readList_spread blankItems blankLast taken]
      rfl
  | @object room members ordered _ ih =>
    intro text gap rest written blank closed
    cases written with
    | object blankMembers blankLast blankBetween written =>
      have taken := @takesMembers_of_readable room readValue _ blankBetween _ [] members ordered
        ih written
      rw [List.cons_append, readValue_object blank, List.append_assoc, List.singleton_append,
        readMembers_spread blankMembers blankLast taken]
      rfl

/-- What stays of a value where `null` counts as nothing. -/
def proper? : Json → Option Json
  | .null => none
  | value => some value

/-- A readable value other than `null` does not begin as `null` does. -/
theorem Readable.ne_null_text {value : Json} (readable : Readable ReadsBack room value)
    (notNull : value ≠ .null) (written : Written value text) (behind : List Char) :
    text ≠ 'n' :: behind := by
  have number : ∀ {c : Char}, Number.begins c = true → c ≠ 'n' :=
    fun begins => Number.ne_of_begins begins rfl
  cases written with
  | null => exact absurd rfl notNull
  | bool b => cases b <;> exact fun same => absurd (List.cons.inj same).1 (by decide)
  | int n =>
    obtain ⟨c, tail, shape, begins⟩ := head_wholeText n
    rw [shape]
    exact fun same => number begins (List.cons.inj same).1
  | decimal x =>
    cases readable with
    | decimal reads =>
      obtain ⟨c, tail, shape, begins, -⟩ := Number.exists_front reads
      rw [shape]
      exact fun same => number begins (List.cons.inj same).1
  | string | array | object => exact fun same => absurd (List.cons.inj same).1 (by decide)

/-- A readable value is read as what stays of it where `null` counts as nothing. -/
theorem accepts_readOptional_readValue {value : Json} (readable : Readable ReadsBack room value) :
    (readOptional readValue).Accepts room value value.proper? := by
  by_cases null : value = .null
  · subst null
    exact accepts_readOptional_null readValue
  · have stays : value.proper? = some value := by
      cases value <;> first | rfl | exact absurd rfl null
    rw [stays]
    exact accepts_readOptional (accepts_readValue readable)
      fun written => readable.ne_null_text null written

/-! ## Documents -/

/-- A reader that accepts a value reads a text that is a writing of it. -/
theorem readDocument_of_accepts {α : Type} {reader : JsonReader α} {value : Json} {x : α}
    {text : String} (accepts : reader.Accepts maxDepth value x)
    (written : Written value text.toList) : readDocument reader text = .ok x := by
  have read := accepts written Blank.nil closed_nil
  rw [List.nil_append, List.append_nil] at read
  rw [readDocument, read]
  rfl

end Json

end NovelScript
