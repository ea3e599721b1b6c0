import NovelScript.Wire.Decoder

/-!
# Calls — what the decode loop asks of a decoder

The loop works with any decoder: one that stands still, goes back, leaves the bytes behind, or
fails at any place. What can be said of all of them is said of the calls that the loop makes. It
asks at the start and then wherever the answer before led to, as long as that is further on and
inside the bytes (`Decoder.Run`). From the calls everything else can be told: which nodes are kept,
and which of its three ends the run comes to (`Ending`).

The answer of the loop does not list its calls, so a call has to be known by what it can change: the
decoder is consulted at a place exactly if failing there, with any error, would make the loop fail
with that error (`Decoder.Consults`).

A decoder may itself fail with the error of the loop. Such a run has failed and is not stuck, though
both are reported alike; so the ends of runs are told apart before they become errors.

## What is proved

`Decoder.Run.decodeFrom_eq`: the answer of the loop is told by its calls.
`Decoder.Run.consults_iff`: they are made where the decoder is consulted. `Decoder.decodeAll_books`:
the calls that are made for a byte string, their number, order and places, and the nodes and the end
that follow from them.
-/

set_option autoImplicit false

namespace NovelScript.Decoder

/-! ## Calls and ends -/

/-- A call of a decoder: the offset that it is given, and what it answers with. -/
structure Call where
  offset : Nat
  answer : Except DecodeError (Node × Nat)

namespace Call

/-- The node and the offset after it, if the call succeeded and led further on. -/
def step? (call : Call) : Option (Node × Nat) :=
  match call.answer with
  | .ok (node, next) => if call.offset < next then some (node, next) else none
  | .error _ => none

/-- The call succeeded, but did not lead further on. -/
def Stalls (call : Call) : Prop := ∃ node next, call.answer = .ok (node, next) ∧ next ≤ call.offset

variable {offset next : Nat} {node : Node} {error : DecodeError}

theorem step?_error : step? ⟨offset, .error error⟩ = none := rfl

theorem step?_of_lt (onward : offset < next) :
    step? ⟨offset, .ok (node, next)⟩ = some (node, next) :=
  if_pos onward

theorem step?_of_le (back : next ≤ offset) : step? ⟨offset, .ok (node, next)⟩ = none :=
  if_neg (Nat.not_lt.mpr back)

theorem stalls_ok_iff : Stalls ⟨offset, .ok (node, next)⟩ ↔ next ≤ offset := by
  constructor
  · rintro ⟨_, _, same, back⟩
    cases same
    exact back
  · intro back
    exact ⟨node, next, rfl, back⟩

theorem not_stalls_error : ¬ Stalls ⟨offset, .error error⟩ := by
  rintro ⟨_, _, same, -⟩
  cases same

end Call

/-- How a run ends. -/
inductive Ending where
  /-- The offset is at the end of the bytes, or past it. -/
  | finished
  /-- The call at this offset did not lead further on. -/
  | stuck (offset : Nat)
  /-- A call failed. -/
  | failed (error : DecodeError)

/-- The failure that a run with this end reports. -/
def Ending.failure? : Ending → Option DecodeError
  | .finished => none
  | .stuck offset => some (.noProgress offset)
  | .failed error => some error

/-! ## Runs -/

/-- From an offset on the loop makes these calls and comes to this end. -/
inductive Run (decoder : Decoder) (bytes : List UInt8) : Nat → List Call → Ending → Prop
  | finished {offset : Nat} : bytes.length ≤ offset → Run decoder bytes offset [] .finished
  | failed {offset : Nat} {error : DecodeError} : offset < bytes.length →
      decoder.decode bytes offset = .error error →
      Run decoder bytes offset [⟨offset, .error error⟩] (.failed error)
  | stuck {offset next : Nat} {node : Node} : offset < bytes.length →
      decoder.decode bytes offset = .ok (node, next) → next ≤ offset →
      Run decoder bytes offset [⟨offset, .ok (node, next)⟩] (.stuck offset)
  | step {offset next : Nat} {node : Node} {calls : List Call} {ending : Ending} :
      offset < bytes.length → decoder.decode bytes offset = .ok (node, next) → offset < next →
      Run decoder bytes next calls ending →
      Run decoder bytes offset (⟨offset, .ok (node, next)⟩ :: calls) ending

/-- From every offset on there is a run. -/
theorem exists_run (decoder : Decoder) (bytes : List UInt8) (offset : Nat) :
    ∃ calls ending, Run decoder bytes offset calls ending := by
  fun_induction decodeFrom decoder bytes offset with
  | case1 offset more error failed => exact ⟨_, _, .failed more failed⟩
  | case2 offset more node next read onward ih =>
    obtain ⟨calls, ending, run⟩ := ih
    exact ⟨_, ending, .step more read onward run⟩
  | case3 offset more node next read back => exact ⟨_, _, .stuck more read (Nat.not_lt.mp back)⟩
  | case4 offset past => exact ⟨[], .finished, .finished (Nat.not_lt.mp past)⟩

namespace Run

variable {decoder other : Decoder} {bytes : List UInt8} {offset : Nat} {calls : List Call}
  {ending : Ending}

/-- The nodes of the calls that led further on, and the failure of the end, are the answer of the
loop. -/
theorem decodeFrom_eq (run : Run decoder bytes offset calls ending) :
    decoder.decodeFrom bytes offset =
      ⟨(calls.filterMap Call.step?).map Prod.fst, ending.failure?⟩ := by
  induction run with
  | finished past =>
    rw [decodeFrom, if_neg (Nat.not_lt.mpr past)]
    rfl
  | failed more failed =>
    rw [decodeFrom, if_pos more, failed]
    rfl
  | stuck more read back =>
    rw [decodeFrom, if_pos more, read, List.filterMap_cons_none (Call.step?_of_le back)]
    exact if_neg (Nat.not_lt.mpr back)
  | step more read onward _ ih =>
    rw [decodeFrom, if_pos more, read, List.filterMap_cons_some (Call.step?_of_lt onward)]
    dsimp only
    rw [if_pos onward, ih]
    rfl

/-- Every call is made between the start of the run and the end of the bytes, and is answered by the
decoder. -/
theorem of_mem (run : Run decoder bytes offset calls ending) :
    ∀ call ∈ calls, offset ≤ call.offset ∧ call.offset < bytes.length ∧
      call.answer = decoder.decode bytes call.offset := by
  induction run with
  | finished => exact List.forall_mem_nil _
  | failed more failed => exact List.forall_mem_singleton.mpr ⟨Nat.le_refl _, more, failed.symm⟩
  | stuck more read _ => exact List.forall_mem_singleton.mpr ⟨Nat.le_refl _, more, read.symm⟩
  | step more read onward _ ih =>
    refine List.forall_mem_cons.mpr ⟨⟨Nat.le_refl _, more, read.symm⟩, fun call mem => ?_⟩
    obtain ⟨behind, inside, answer⟩ := ih call mem
    exact ⟨Nat.le_trans (Nat.le_of_lt onward) behind, inside, answer⟩

/-- Every call is made further on than the ones before it. -/
theorem pairwise (run : Run decoder bytes offset calls ending) :
    calls.Pairwise fun earlier later => earlier.offset < later.offset := by
  induction run with
  | finished => exact .nil
  | failed | stuck => exact List.pairwise_singleton _ _
  | step _ _ onward run ih =>
    refine List.pairwise_cons.mpr ⟨fun later mem => ?_, ih⟩
    exact Nat.lt_of_lt_of_le onward (run.of_mem later mem).1

/-- Every call leaves fewer bytes for the others. -/
theorem length_le (run : Run decoder bytes offset calls ending) :
    calls.length ≤ bytes.length - offset := by
  induction run with
  | finished => exact Nat.zero_le _
  | failed more | stuck more =>
    rw [List.length_singleton]
    omega
  | step more _ onward _ ih =>
    rw [List.length_cons]
    omega

/-- Calls are made at the start and where the steps before led to, as far as that is inside the
bytes. -/
theorem map_offset (run : Run decoder bytes offset calls ending) :
    calls.map Call.offset =
      (offset :: (calls.filterMap Call.step?).map Prod.snd).takeWhile (· < bytes.length) := by
  have inside : ∀ {place} (places : List Nat), place < bytes.length →
      (place :: places).takeWhile (· < bytes.length) =
        place :: places.takeWhile (· < bytes.length) :=
    fun _ more => List.takeWhile_cons_of_pos (by simpa using more)
  induction run with
  | finished past => exact (List.takeWhile_cons_of_neg (by simpa using past)).symm
  | failed more =>
    rw [List.filterMap_cons_none Call.step?_error, inside _ more]
    rfl
  | stuck more _ back =>
    rw [List.filterMap_cons_none (Call.step?_of_le back), inside _ more]
    rfl
  | step more _ onward _ ih =>
    rw [List.filterMap_cons_some (Call.step?_of_lt onward), inside _ more, List.map_cons,
      List.map_cons, ih]

/-! ### The end -/

/-- Whether the last call is of some kind is not changed by a call of another kind before all. -/
theorem exists_last_cons {P : Call → Prop} {call : Call} (other : ¬ P call) :
    (∃ last ∈ (call :: calls).getLast?, P last) ↔ ∃ last ∈ calls.getLast?, P last := by
  rw [List.getLast?_cons]
  cases calls.getLast? with
  | none => simp [other]
  | some last => simp

/-- A run is stuck where its last call is, if that does not lead further on. -/
theorem eq_stuck_iff (run : Run decoder bytes offset calls ending) {place : Nat} :
    ending = .stuck place ↔ ∃ last ∈ calls.getLast?, last.offset = place ∧ last.Stalls := by
  induction run with
  | finished => simp
  | failed => simp [Call.not_stalls_error]
  | stuck _ _ back => simp [Call.stalls_ok_iff, back]
  | step _ _ onward _ ih =>
    rw [ih, exists_last_cons]
    rintro ⟨-, stalls⟩
    exact Nat.not_lt.mpr (Call.stalls_ok_iff.mp stalls) onward

/-- A run fails as its last call does. -/
theorem eq_failed_iff (run : Run decoder bytes offset calls ending) {error : DecodeError} :
    ending = .failed error ↔ ∃ last ∈ calls.getLast?, last.answer = .error error := by
  induction run with
  | finished | failed | stuck => simp
  | step _ _ _ _ ih =>
    rw [ih, exists_last_cons]
    rintro ⟨⟩

/-- A run has finished if the place that it came to is not inside the bytes. -/
theorem eq_finished_iff (run : Run decoder bytes offset calls ending) :
    ending = .finished ↔
      bytes.length ≤ ((calls.filterMap Call.step?).map Prod.snd).getLastD offset := by
  induction run with
  | finished past => simpa using past
  | failed more =>
    rw [List.filterMap_cons_none Call.step?_error]
    simpa using more
  | stuck more _ back =>
    rw [List.filterMap_cons_none (Call.step?_of_le back)]
    simpa using more
  | step _ _ onward _ ih =>
    rw [List.filterMap_cons_some (Call.step?_of_lt onward), List.map_cons, List.getLastD_cons]
    exact ih

end Run

/-! ## Where a decoder is consulted -/

/-- The decoder, but failing at one place. -/
def failingAt (decoder : Decoder) (place : Nat) (error : DecodeError) : Decoder where
  decode bytes offset := if offset = place then .error error else decoder.decode bytes offset
  text := decoder.text

/-- Whatever error the decoder failed with at the place, the loop would fail with it. -/
def Consults (decoder : Decoder) (bytes : List UInt8) (place : Nat) : Prop :=
  ∀ error, ((decoder.failingAt place error).decodeAll bytes).failure = some error

namespace Run

variable {decoder other : Decoder} {bytes : List UInt8} {offset : Nat} {calls : List Call}
  {ending : Ending}

/-- A decoder that answers the calls of a run in the same way is run in the same way. -/
theorem congr (run : Run decoder bytes offset calls ending)
    (same : ∀ call ∈ calls, other.decode bytes call.offset = call.answer) :
    Run other bytes offset calls ending := by
  induction run with
  | finished past => exact .finished past
  | failed more _ => exact .failed more (same _ List.mem_cons_self)
  | stuck more _ back => exact .stuck more (same _ List.mem_cons_self) back
  | step more _ onward _ ih =>
    obtain ⟨first, others⟩ := List.forall_mem_cons.mp same
    exact .step more first onward (ih others)

/-- A failure at the place of a call is what the run ends with. -/
theorem failure_failingAt (run : Run decoder bytes offset calls ending) {place : Nat}
    (called : place ∈ calls.map Call.offset) (error : DecodeError) :
    ((decoder.failingAt place error).decodeFrom bytes offset).failure = some error := by
  have here : ∀ {offset}, offset < bytes.length →
      ((decoder.failingAt offset error).decodeFrom bytes offset).failure = some error := by
    intro offset more
    have failed : (decoder.failingAt offset error).decode bytes offset = .error error := if_pos rfl
    rw [decodeFrom, if_pos more, failed]
  induction run with
  | finished => cases called
  | failed more | stuck more =>
    obtain rfl := List.mem_singleton.mp called
    exact here more
  | @step offset next node calls ending more read onward run ih =>
    rcases List.mem_cons.mp called with rfl | later
    · exact here more
    · -- The place lies further on, so the first call is answered as before.
      obtain ⟨call, mem, rfl⟩ := List.mem_map.mp later
      have before : offset ≠ call.offset := by
        have := (run.of_mem call mem).1
        omega
      have same : (decoder.failingAt call.offset error).decode bytes offset = .ok (node, next) :=
        (if_neg before).trans read
      rw [decodeFrom, if_pos more, same]
      dsimp only
      rw [if_pos onward]
      exact ih later

/-- Calls are made exactly where the decoder is consulted. -/
theorem consults_iff (run : Run decoder bytes 0 calls ending) {place : Nat} :
    decoder.Consults bytes place ↔ place ∈ calls.map Call.offset := by
  constructor
  · intro consulted
    by_cases called : place ∈ calls.map Call.offset
    · exact called
    -- No call is answered in another way, so the run would fail with two errors at once.
    have unchanged : ∀ error, ending.failure? = some error := by
      intro error
      have same : Run (decoder.failingAt place error) bytes 0 calls ending := by
        refine run.congr fun call mem => ?_
        have other : call.offset ≠ place := fun here => called (here ▸ List.mem_map_of_mem mem)
        exact (if_neg other).trans (run.of_mem call mem).2.2.symm
      have failed := consulted error
      rwa [decodeAll, same.decodeFrom_eq] at failed
    have both := (unchanged .endOfInput).symm.trans (unchanged (.noProgress 0))
    cases both
  · intro called error
    exact run.failure_failingAt called error

end Run

/-! ## The books -/

/-- Whatever the decoder, the loop makes no more calls than there are bytes: at the start and where
the steps before led to, further on with each call and always inside the bytes. It keeps the nodes
of the calls that led further on, in their order. It is stuck exactly if the last call succeeded
without leading further on, fails with the decoder's error exactly if the last call failed, and
succeeds exactly if it came to the end of the bytes or past it. -/
theorem decodeAll_books (decoder : Decoder) (bytes : List UInt8) :
    ∃ (calls : List Call) (ending : Ending),
      let steps := calls.filterMap Call.step?
      (∀ place, place ∈ calls.map Call.offset ↔ decoder.Consults bytes place) ∧
      (∀ call ∈ calls, call.answer = decoder.decode bytes call.offset) ∧
      calls.length ≤ bytes.length ∧
      calls.map Call.offset = (0 :: steps.map Prod.snd).takeWhile (· < bytes.length) ∧
      (calls.Pairwise fun earlier later => earlier.offset < later.offset) ∧
      (∀ call ∈ calls, call.offset < bytes.length) ∧
      decoder.decodeAll bytes = ⟨steps.map Prod.fst, ending.failure?⟩ ∧
      (∀ place, ending = .stuck place ↔
        ∃ last ∈ calls.getLast?, last.offset = place ∧
          ∃ node next, last.answer = .ok (node, next) ∧ next ≤ last.offset) ∧
      (∀ error, ending = .failed error ↔ ∃ last ∈ calls.getLast?, last.answer = .error error) ∧
      (ending = .finished ↔ bytes.length ≤ (steps.map Prod.snd).getLastD 0) := by
  obtain ⟨calls, ending, run⟩ := exists_run decoder bytes 0
  refine ⟨calls, ending, fun place => run.consults_iff.symm, fun call mem => ?_, run.length_le,
    run.map_offset, run.pairwise, fun call mem => ?_, run.decodeFrom_eq,
    fun place => run.eq_stuck_iff, fun error => run.eq_failed_iff, run.eq_finished_iff⟩
  · exact (run.of_mem call mem).2.2
  · exact (run.of_mem call mem).2.1

/-- A decoder that goes back on its second call. -/
example :
    (Decoder.mk (fun _ offset => .ok (if offset = 0 then (.nop, 2) else (.byte 1, 1)))
      fun _ => "").decodeAll [7, 7, 7] = ⟨[.nop], some (.noProgress 2)⟩ := by
  cbv

end NovelScript.Decoder
