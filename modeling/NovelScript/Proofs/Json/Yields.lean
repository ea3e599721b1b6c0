import Mathlib.Data.List.DropRight
import NovelScript.Proofs.Json.Acceptance
import NovelScript.Proofs.Results
import NovelScript.Proofs.Tree.Resolved

/-!
# Yields — what readers can answer with

A reader that succeeds answers with a value that kept to the reader's bounds, whatever the text was.
A free value nests no deeper than the reader had room for, its whole numbers fit sixty-four bits,
and its keys stand in order: it is readable again (`Readable`), but for its decimals, which are read
in steps and may be written in a way that leads elsewhere.

## What is proved

`yields_readValue`: a free value is readable within the room it was read in, but for its decimals.
`yields_readOptional_readValue`: it is not `null` where that is nothing. `Readable.of_decimals`: it
is readable if its decimals read back.
-/

set_option autoImplicit false

namespace NovelScript

/-- All that a reader answers with has a property. -/
def Yields {α : Type} (reader : List Char → ReadResult α) (P : α → Prop) : Prop :=
  ∀ ⦃text : List Char⦄ ⦃x : α⦄ ⦃rest : List Char⦄, reader text = .ok (x, rest) → P x

theorem yields_true {α : Type} (reader : List Char → ReadResult α) : Yields reader fun _ => True :=
  fun _ _ _ _ => trivial

namespace Number

/-- A whole number that fits sixty-four bits, or a decimal. -/
def Fits : Number → Prop
  | .whole n => -0x8000000000000000 ≤ n ∧ n ≤ 0xFFFFFFFFFFFFFFFF
  | .decimal _ => True

variable {negative : Bool} {significand left : Nat} {power : Int} {n : Number}

theorem fits_ofSignificand (small : significand ≤ maxSignificand) :
    (ofSignificand negative significand).Fits := by
  rw [maxSignificand] at small
  unfold ofSignificand
  split
  · split
    next low =>
      simp only [Bool.and_eq_true, decide_eq_true_eq] at low
      exact ⟨by omega, by omega⟩
    next => trivial
  · exact ⟨by omega, by omega⟩

theorem fits_ofParts (made : ofParts negative significand power = .ok n) : n.Fits := by
  cases power with
  | ofNat k =>
    rw [ofParts] at made
    split at made <;> cases made
    trivial
  | negSucc k => cases made; trivial

/-- A significand that fits stays one that fits. -/
theorem absorb_le (digits : List Nat) (small : significand ≤ maxSignificand) :
    (absorb significand digits).1 ≤ maxSignificand := by
  induction digits generalizing significand with
  | nil => exact small
  | cons d digits ih =>
    rw [absorb]
    split
    next fits => exact ih fits
    next => exact small

/-- The number that parts make, in front of what follows them. -/
theorem fits_of_map_ofParts {x : Number} {behind rest : List Char}
    (made : (ofParts negative significand power).map (·, behind) = .ok (x, rest)) : x.Fits := by
  obtain ⟨n, parts, same⟩ := exists_of_map_eq_ok made
  cases same
  exact fits_ofParts parts

theorem yields_readExponent : Yields (readExponent negative significand power) Fits := by
  intro text x rest read
  unfold readExponent at read
  dsimp only at read
  split at read
  next => cases read
  next =>
    split at read
    next => exact fits_of_map_ofParts read
    next =>
      split at read <;> cases read
      trivial

theorem yields_readPower : Yields (readPower negative significand power) Fits := by
  intro text x rest read
  unfold readPower at read
  split at read
  next => exact yields_readExponent read
  next => exact yields_readExponent read
  next => exact fits_of_map_ofParts read

theorem yields_readFraction : Yields (readFraction negative significand power) Fits := by
  intro text x rest read
  unfold readFraction at read
  split at read
  next => cases read
  next => exact yields_readPower read

theorem yields_readTail (small : significand ≤ maxSignificand) :
    Yields (readTail negative significand left) Fits := by
  intro text x rest read
  unfold readTail at read
  split at read
  next => exact yields_readFraction read
  next => exact yields_readExponent read
  next => exact yields_readExponent read
  next =>
    split at read
    next =>
      cases read
      exact fits_ofSignificand small
    next => exact fits_of_map_ofParts read

/-- A number that is read fits sixty-four bits or is a decimal. -/
theorem yields_read : Yields read Fits := by
  intro text x rest done
  unfold read readUnsigned at done
  dsimp only at done
  split at done
  next => cases done
  next => cases done
  next digits _ _ _ _ => exact yields_readTail (absorb_le digits (Nat.zero_le _)) done

end Number

namespace Json

variable {α : Type} {P : α → Prop} {room : Nat}

/-! ## Readers of types -/

theorem yields_map {β : Type} {Q : β → Prop} {reader : JsonReader α} {f : α → β}
    (yields : Yields (reader room) P) (carry : ∀ x, P x → Q (f x)) :
    Yields (JsonReader.map f reader room) Q := by
  intro text y rest read
  obtain ⟨⟨x, behind⟩, read, same⟩ := exists_of_map_eq_ok read
  cases same
  exact carry x (yields read)

theorem yields_readOptional {reader : JsonReader α} (yields : Yields (reader room) P) :
    Yields (readOptional reader room) fun x => ∀ a ∈ x, P a := by
  intro text y rest read
  unfold readOptional at read
  split at read
  next =>
    obtain ⟨_, _, same⟩ := exists_of_map_eq_ok read
    cases same
    intro a mem
    cases mem
  next =>
    obtain ⟨⟨x, behind⟩, read, same⟩ := exists_of_map_eq_ok read
    cases same
    intro a mem
    cases mem
    exact yields read

theorem yields_readItems {item : List Char → ReadResult α} (yields : Yields item P)
    (passing : Bool) (rounds : Nat) (first : Bool) :
    Yields (readItems passing item rounds first) fun xs => ∀ x ∈ xs, P x := by
  induction rounds generalizing first with
  | zero =>
    intro text xs rest read
    cases read
  | succ rounds ih =>
    intro text xs rest read
    rw [readItems] at read
    split at read
    next => cases read
    next =>
      cases read
      exact List.forall_mem_nil _
    next =>
      split at read
      next => cases read
      next x behind one =>
        obtain ⟨⟨xs, behind⟩, others, same⟩ := exists_of_map_eq_ok read
        cases same
        exact List.forall_mem_cons.mpr ⟨yields one, ih false others⟩

theorem yields_readListOf {reader : JsonReader α} (yields : Yields (reader room) P) :
    Yields (readListOf reader (room + 1)) fun xs => ∀ x ∈ xs, P x := by
  intro text xs rest read
  unfold readListOf at read
  split at read
  next => exact yields_readItems yields false _ true read
  next => cases read

/-- What a member may do to the state, all members do. -/
theorem yields_readMembersFrom {σ κ : Type} {P : σ → Prop} {key : List Char → ReadResult κ}
    {member : σ → κ → List Char → ReadResult σ}
    (keeps : ∀ state k, P state → Yields (member state k) P) (passing : Bool) (rounds : Nat)
    (first : Bool) {state : σ} (start : P state) :
    Yields (readMembersFrom passing key member rounds first state) P := by
  induction rounds generalizing first state with
  | zero =>
    intro text final rest read
    cases read
  | succ rounds ih =>
    intro text final rest read
    rw [readMembersFrom] at read
    split at read
    next => cases read
    next =>
      cases read
      exact start
    next =>
      split at read
      next => cases read
      next k _ _ =>
        split at read
        next => cases read
        next next behind one => exact ih false (keeps state k start one) read

/-! ## Free values -/

/-- A value that keeps to the bounds but for its decimals. -/
abbrev Bounded : Nat → Json → Prop := Readable fun _ => True

theorem yields_readScalar : Yields readScalar (Bounded room) := by
  intro text value rest read
  unfold readScalar at read
  split at read
  next => cases read
  next =>
    obtain ⟨_, _, same⟩ := exists_of_map_eq_ok read
    cases same
    exact .null
  next =>
    obtain ⟨_, _, same⟩ := exists_of_map_eq_ok read
    cases same
    exact .bool true
  next =>
    obtain ⟨_, _, same⟩ := exists_of_map_eq_ok read
    cases same
    exact .bool false
  next =>
    obtain ⟨⟨s, behind⟩, _, same⟩ := exists_of_map_eq_ok read
    cases same
    exact .string s
  next =>
    split at read
    next =>
      obtain ⟨⟨n, behind⟩, number, same⟩ := exists_of_map_eq_ok read
      cases same
      have fits := Number.yields_read number
      cases n with
      | whole n => exact .int fits.1 fits.2
      | decimal x => exact .decimal trivial
    next => cases read

/-- What is put among members is one of them, and the others were. -/
theorem mem_insertMember {key : String} {value : Json} {members : List (String × Json)}
    {member : String × Json} (mem : member ∈ insertMember key value members) :
    member = (key, value) ∨ member ∈ members := by
  induction members with
  | nil => exact .inl (List.mem_singleton.mp mem)
  | cons first members ih =>
    obtain ⟨k, v⟩ := first
    rw [insertMember] at mem
    split at mem
    · exact List.mem_cons.mp mem
    · split at mem
      · rcases List.mem_cons.mp mem with same | old
        · exact .inl same
        · exact .inr (List.mem_cons_of_mem _ old)
      · rcases List.mem_cons.mp mem with same | new
        · exact .inr (same ▸ List.mem_cons_self)
        · exact (ih new).imp_right (List.mem_cons_of_mem _)

/-- Members in order stay in order when one is put among them. -/
theorem pairwise_insertMember {key : String} {value : Json} {members : List (String × Json)}
    (ordered : members.Pairwise fun m n => m.1 < n.1) :
    (insertMember key value members).Pairwise fun m n => m.1 < n.1 := by
  induction members with
  | nil => exact List.pairwise_singleton _ _
  | cons first members ih =>
    obtain ⟨k, v⟩ := first
    obtain ⟨before, others⟩ := List.pairwise_cons.mp ordered
    rw [insertMember]
    split
    next below =>
      refine List.pairwise_cons.mpr ⟨fun member mem => ?_, ordered⟩
      rcases List.mem_cons.mp mem with rfl | old
      · exact below
      · exact String.lt_trans below (before member old)
    next notBelow =>
      split
      next same =>
        subst same
        exact List.pairwise_cons.mpr ⟨before, others⟩
      next other =>
        refine List.pairwise_cons.mpr ⟨fun member mem => ?_, ih others⟩
        rcases mem_insertMember mem with rfl | old
        · exact String.not_le.mp fun le =>
            other (String.le_antisymm le (String.not_lt.mp notBelow))
        · exact before member old

/-- Members in order of their keys, with bounded values. -/
def BoundedMembers (room : Nat) (members : List (String × Json)) : Prop :=
  members.Pairwise (fun m n => m.1 < n.1) ∧ ∀ member ∈ members, Bounded room member.2

/-- A free member is put among the members read so far, and leaves them in order. -/
theorem yields_readFreeMember {reader : List Char → ReadResult Json}
    (yields : Yields reader (Bounded room)) {members : List (String × Json)} (key : String)
    (kept : BoundedMembers room members) :
    Yields (readFreeMember reader members key) (BoundedMembers room) := by
  intro text final rest read
  unfold readFreeMember at read
  split at read
  next => cases read
  next =>
    obtain ⟨⟨value, behind⟩, one, same⟩ := exists_of_map_eq_ok read
    cases same
    refine ⟨pairwise_insertMember kept.1, fun member mem => ?_⟩
    rcases mem_insertMember mem with rfl | old
    · exact yields one
    · exact kept.2 member old

/-- A free value is readable within the room it was read in, but for its decimals. -/
theorem yields_readValue (room : Nat) : Yields (readValue room) (Bounded room) := by
  induction room with
  | zero =>
    intro text value rest read
    rw [readValue] at read
    split at read
    next => cases read
    next => cases read
    next => exact yields_readScalar read
  | succ room ih =>
    intro text value rest read
    rw [readValue] at read
    split at read
    next =>
      obtain ⟨⟨items, behind⟩, list, same⟩ := exists_of_map_eq_ok read
      cases same
      exact .array (yields_readItems ih false _ true list)
    next =>
      obtain ⟨⟨members, behind⟩, object, same⟩ := exists_of_map_eq_ok read
      cases same
      have kept : BoundedMembers room members :=
        yields_readMembersFrom (fun _ key kept => yields_readFreeMember ih key kept) false _ true
          ⟨.nil, List.forall_mem_nil _⟩ object
      exact .object kept.1 kept.2
    next => exact yields_readScalar read

/-- Only the word is read as `null`. -/
theorem exists_of_readScalar_null {text rest : List Char}
    (read : readScalar text = .ok (.null, rest)) : ∃ behind, text = 'n' :: behind := by
  unfold readScalar at read
  split at read
  next => cases read
  next behind => exact ⟨behind, rfl⟩
  next =>
    obtain ⟨_, _, same⟩ := exists_of_map_eq_ok read
    cases same
  next =>
    obtain ⟨_, _, same⟩ := exists_of_map_eq_ok read
    cases same
  next =>
    obtain ⟨_, _, same⟩ := exists_of_map_eq_ok read
    cases same
  next =>
    split at read
    next =>
      obtain ⟨⟨n, _⟩, _, same⟩ := exists_of_map_eq_ok read
      cases n <;> cases same
    next => cases read

theorem exists_of_readValue_null {text rest : List Char}
    (read : readValue room text = .ok (.null, rest)) :
    ∃ behind, skipSpace text = 'n' :: behind := by
  cases room with
  | zero =>
    rw [readValue] at read
    split at read
    next => cases read
    next => cases read
    next => exact exists_of_readScalar_null read
  | succ room =>
    rw [readValue] at read
    split at read
    next =>
      obtain ⟨_, _, same⟩ := exists_of_map_eq_ok read
      cases same
    next =>
      obtain ⟨_, _, same⟩ := exists_of_map_eq_ok read
      cases same
    next => exact exists_of_readScalar_null read

/-- Where `null` is nothing, no value that is read is `null`. -/
theorem yields_readOptional_readValue (room : Nat) :
    Yields (readOptional readValue room) fun value => value ≠ some .null := by
  intro text value rest read
  unfold readOptional at read
  split at read
  next =>
    obtain ⟨_, _, same⟩ := exists_of_map_eq_ok read
    cases same
    exact nofun
  next other =>
    obtain ⟨⟨given, behind⟩, one, same⟩ := exists_of_map_eq_ok read
    cases same
    rintro ⟨⟩
    obtain ⟨letters, null⟩ := exists_of_readValue_null one
    rw [skipSpace, skipSpace, List.dropWhile_idempotent] at null
    exact other letters null

/-- A bounded value whose decimals all have a property is readable with that property. -/
theorem Readable.of_decimals {P : Binary64 → Prop} {value : Json} (bounded : Bounded room value)
    (decimals : ∀ x, (Json.decimal x).Within value → P x) : Readable P room value := by
  induction bounded with
  | null => exact .null
  | bool b => exact .bool b
  | int least greatest => exact .int least greatest
  | decimal => exact .decimal (decimals _ .self)
  | string s => exact .string s
  | array _ ih =>
    exact .array fun item mem => ih item mem fun x within => decimals x (.item mem within)
  | object ordered _ ih =>
    exact .object ordered fun member mem =>
      ih member mem fun x within => decimals x (.member mem within)

/-- The decimals of a readable value have the property. -/
theorem Readable.decimal_within {P : Binary64 → Prop} {value : Json}
    (readable : Readable P room value) {x : Binary64} (within : (Json.decimal x).Within value) :
    P x := by
  induction readable with
  | null | bool | int | string => cases within
  | decimal holds =>
    cases within
    exact holds
  | array _ ih =>
    cases within with
    | item mem within => exact ih _ mem within
  | object _ _ ih =>
    cases within with
    | member mem within => exact ih _ mem within

/-- A document that is read was read by its reader. -/
theorem exists_of_readDocument {reader : JsonReader α} {text : String} {x : α}
    (read : readDocument reader text = .ok x) :
    ∃ rest, reader maxDepth text.toList = .ok (x, rest) := by
  unfold readDocument at read
  split at read
  next => cases read
  next value rest whole =>
    split at read
    next =>
      cases read
      exact ⟨rest, whole⟩
    next => cases read

end Json

end NovelScript
