import NovelScript.Proofs.Json.Yields

/-!
# Records read — objects that are accepted, and what all records have

A record is read member by member, from an object in which each member finds the field of its name.
So an object is accepted if the members have fields of their own that accept their values
(`TakesFields`) and the fields that are left may be missing. In the other direction, whatever text a
record was read from, as an object or as a list, it has every property that the start value has and
that no field can break (`RecordField.Keeps`).

## What is proved

`RecordType.accepts_read`: an object whose members the fields take is read as the record they make.
`RecordType.yields_read`: a property of records that the fields keep.
-/

set_option autoImplicit false

namespace NovelScript

open Json (Written Blank)

/-! ## Accepted objects -/

namespace RecordField

variable {σ α : Type} {name : String} {reader : JsonReader α} {put : α → σ → σ} {room : Nat}
  {value : Json} {x : α}

/-- A field accepts what its reader does, and puts it where it goes. -/
theorem accepts_required (accepts : reader.Accepts room value x) :
    (required name reader put).read.Accepts room value (put x) :=
  Json.accepts_map accepts put

theorem accepts_withDefault (accepts : reader.Accepts room value x) :
    (withDefault name reader put).read.Accepts room value (put x) :=
  Json.accepts_map accepts put

end RecordField

namespace RecordType

open Json

variable {σ : Type} {type : RecordType σ} {room : Nat} {progress final : Progress σ}
  {members : List (String × Json)}

/-- Members that fields of a record take one after the other: each has a field of its own, which it
is the first to name, and the field's reader accepts its value. -/
inductive TakesFields (type : RecordType σ) (room : Nat) :
    Progress σ → List (String × Json) → Progress σ → Prop
  | done {progress : Progress σ} : TakesFields type room progress [] progress
  | step {progress final : Progress σ} {key : String} {value : Json} {field : RecordField σ}
      {put : σ → σ} {members : List (String × Json)} :
      type.fields.find? (fun f => f.name == key) = some field →
      progress.seen.contains key = false → field.read.Accepts room value put →
      TakesFields type room ⟨key :: progress.seen, put progress.value⟩ members final →
      TakesFields type room progress ((key, value) :: members) final

/-- Members that fields take one part after the other are taken as a whole. -/
theorem TakesFields.append {middle : Progress σ} {others : List (String × Json)}
    (front : TakesFields type room progress members middle)
    (back : TakesFields type room middle others final) :
    TakesFields type room progress (members ++ others) final := by
  induction front with
  | done => exact back
  | step found fresh accepts _ ih => exact .step found fresh accepts (ih back)

/-- A member with a field of its own is taken by it. -/
theorem member_of_field {key : String} {field : RecordField σ} {value : Json} {put : σ → σ}
    {between text rest : List Char}
    (found : type.fields.find? (fun f => f.name == key) = some field)
    (fresh : progress.seen.contains key = false) (accepts : field.read.Accepts room value put)
    (written : Written value text) (blank : Blank between) (closed : Number.Closed rest) :
    type.member room progress key (':' :: (between ++ (text ++ rest))) =
      .ok (⟨key :: progress.seen, put progress.value⟩, rest) := by
  rw [member, found]
  dsimp only
  rw [fresh, if_neg Bool.false_ne_true, readColon_colon]
  dsimp only
  rw [accepts written blank closed]
  rfl

/-- Members that fields take are taken as the members of an object. -/
theorem takesMembers_of_takesFields {text : Json → List Char} {between : List Char}
    (blank : Blank between) (taken : TakesFields type room progress members final)
    (written : ∀ member ∈ members, Written member.2 (text member.2)) :
    TakesMembers (type.member room) between progress (members.map fun m => (m.1, text m.2))
      final := by
  induction taken with
  | done => exact .done
  | step found fresh accepts _ ih =>
    obtain ⟨head, others⟩ := List.forall_mem_cons.mp written
    exact .step (fun rest closed => member_of_field found fresh accepts head blank closed)
      (ih others)

/-- Behind its opening brace a record is an object. -/
theorem read_object {gap : List Char} (blank : Blank gap) (text : List Char) :
    type.read (room + 1) (gap ++ '\x7b' :: text) = type.readObject room text := by
  unfold RecordType.read
  rw [skipSpace_gap blank rfl]
  rfl

/-- An object whose members the fields take is accepted as the record they make, one container
deeper. -/
theorem accepts_read {x : σ} (taken : TakesFields type room ⟨[], type.start⟩ members final)
    (complete : type.complete final = .ok x) :
    type.read.Accepts (room + 1) (.object members) x := by
  intro text gap rest written blank closed
  cases written with
  | object blankMembers blankLast blankBetween written =>
    have taken := takesMembers_of_takesFields blankBetween taken written
    rw [List.cons_append, read_object blank, List.append_assoc, List.singleton_append, readObject,
      readMembers_spread blankMembers blankLast taken]
    dsimp only
    rw [complete]
    rfl

end RecordType

/-! ## Properties of records -/

namespace RecordField

variable {σ α : Type} {P : σ → Prop} {Q : α → Prop} {name : String} {reader : JsonReader α}
  {put : α → σ → σ} {room : Nat}

/-- Whatever the field puts into a record, the record keeps its property. -/
def Keeps (field : RecordField σ) (room : Nat) (P : σ → Prop) : Prop :=
  Yields (field.read room) fun put => ∀ s, P s → P (put s)

/-- What the reader of a field yields decides what the field keeps. -/
theorem keeps_required (yields : Yields (reader room) Q)
    (carry : ∀ x, Q x → ∀ s, P s → P (put x s)) : (required name reader put).Keeps room P :=
  Json.yields_map yields carry

theorem keeps_withDefault (yields : Yields (reader room) Q)
    (carry : ∀ x, Q x → ∀ s, P s → P (put x s)) : (withDefault name reader put).Keeps room P :=
  Json.yields_map yields carry

end RecordField

namespace RecordType

open Json

variable {σ : Type} {type : RecordType σ} {P : σ → Prop} {room : Nat}

theorem yields_member (keeps : ∀ field ∈ type.fields, field.Keeps room P)
    (progress : Progress σ) (key : String) (start : P progress.value) :
    Yields (type.member room progress key) fun progress => P progress.value := by
  intro text final rest read
  unfold member at read
  split at read
  next field found =>
    split at read
    next => cases read
    next =>
      split at read
      next => cases read
      next =>
        obtain ⟨⟨put, behind⟩, one, same⟩ := exists_of_map_eq_ok read
        cases same
        exact keeps field (List.mem_of_find?_eq_some found) one _ start
  next =>
    split at read
    next => cases read
    next =>
      obtain ⟨_, _, same⟩ := exists_of_map_eq_ok read
      cases same
      exact start

/-- The fields that a list lacks leave the record as it is. -/
theorem eq_of_completeList {count index : Nat} {value final : σ} {fields : List (RecordField σ)}
    (complete : type.completeList count index value fields = .ok final) : final = value := by
  induction fields generalizing index with
  | nil =>
    cases complete
    rfl
  | cons field fields ih =>
    rw [completeList] at complete
    split at complete
    next => exact ih complete
    next => cases complete

theorem yields_readFields {fields : List (RecordField σ)} (count index : Nat)
    (keeps : ∀ field ∈ fields, field.Keeps room P) {value : σ} (start : P value) :
    Yields (type.readFields room count index value fields) P := by
  induction fields generalizing index value with
  | nil =>
    intro text final rest read
    obtain ⟨_, _, same⟩ := exists_of_map_eq_ok read
    cases same
    exact start
  | cons field fields ih =>
    obtain ⟨first, others⟩ := List.forall_mem_cons.mp keeps
    intro text final rest read
    rw [readFields] at read
    split at read
    next => cases read
    next =>
      obtain ⟨value, complete, same⟩ := exists_of_map_eq_ok read
      cases same
      exact eq_of_completeList complete ▸ start
    next =>
      split at read
      next => cases read
      next put behind one => exact ih (index + 1) others (first one _ start) read

/-- A property that the start value has and that the fields keep is one of all records. -/
theorem yields_read (keeps : ∀ field ∈ type.fields, field.Keeps room P)
    (start : P type.start) : Yields (type.read (room + 1)) P := by
  intro text final rest read
  unfold RecordType.read at read
  split at read
  next empty => cases empty
  next empty => cases empty
  next roomy =>
    cases roomy
    exact yields_readFields _ 0 keeps start read
  next roomy =>
    cases roomy
    rw [readObject] at read
    split at read
    next => cases read
    next progress behind object =>
      have kept := yields_readMembersFrom (yields_member keeps) false _ true
        (show P (Progress.mk [] type.start).value from start) object
      obtain ⟨value, complete, same⟩ := exists_of_map_eq_ok read
      cases same
      unfold RecordType.complete at complete
      split at complete
      next => cases complete
      next => cases complete; exact kept
  next => cases read

end RecordType

end NovelScript
