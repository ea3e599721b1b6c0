import NovelScript.Proofs.Results
import NovelScript.Proofs.Expression.Loading

/-!
# Calls — an expression under any use

An expression may be pushed to, evaluated and loaded in any order and as often as wanted, after
failures too. All calls share the waiting nodes and the root, and each treats them in its own way;
who the expression belongs to and what it assigns to is touched by none.

Loading begins by replacing the waiting nodes, so what was pushed before has no part in it, and it
answers as an expression would that has nothing yet. What it leaves waiting when it fails is what it
decoded. A root stays until the next call that succeeds, and so the root is always the one that was
last answered with.

## What is proved

`answer_load`, `load_of_ok` and `load_of_error`: one loading, its answer and what it leaves.
`holder_after` and `root_after`: what any calls leave. `after_calls` puts this together, for every
expression that began with nothing.
-/

set_option autoImplicit false

namespace NovelScript

/-- A use of an expression. -/
inductive Call where
  | push (node : Node)
  | evaluate
  | load (decoder : Decoder) (bytes : List UInt8)

namespace Expression

/-- The expression after a call, and what the call answers with; a push answers with nothing. -/
def call (e : Expression) : Call → Expression × Option (Except ExpressionError Node)
  | .push node => (e.push node, none)
  | .evaluate => (e.evaluate.1, some e.evaluate.2)
  | .load decoder bytes => ((e.load decoder bytes).1, some (e.load decoder bytes).2)

/-- The expression after calls. -/
def after : Expression → List Call → Expression
  | e, [] => e
  | e, c :: rest => (e.call c).1.after rest

/-- What calls answer with, in order. -/
def answers : Expression → List Call → List (Except ExpressionError Node)
  | _, [] => []
  | e, c :: rest => (e.call c).2.toList ++ (e.call c).1.answers rest

/-- The part of an expression that no call changes: the script, the place in it, the assignment. -/
def holder (e : Expression) : Int32 × Option Owner × Option Assignment :=
  (e.scriptId, e.owner, e.assignment)

variable {e : Expression} {decoder : Decoder} {bytes : List UInt8}

/-! ## Evaluating -/

/-- The answer of an evaluation is a matter of the waiting nodes and the context. -/
theorem answer_evaluate (e : Expression) :
    e.evaluate.2 = NovelScript.evaluate e.context e.pending := by
  unfold evaluate
  cases NovelScript.evaluate e.context e.pending <;> rfl

/-- A successful evaluation consumes the waiting nodes and puts its result in place of the root. -/
theorem evaluate_of_ok {root : Node} (h : e.evaluate.2 = .ok root) :
    e.evaluate.1 = e.rooted root := by
  have evaluated := e.answer_evaluate.symm.trans h
  unfold evaluate
  rw [evaluated]
  rfl

/-- A failed evaluation leaves everything as it was. -/
theorem evaluate_of_error {error : ExpressionError} (h : e.evaluate.2 = .error error) :
    e.evaluate.1 = e := by
  have evaluated := e.answer_evaluate.symm.trans h
  unfold evaluate
  rw [evaluated]

/-! ## Loading -/

/-- With strings for values, the text of the bytes becomes the root. -/
theorem load_of_isString (text : e.isString = true) (decoder : Decoder) (bytes : List UInt8) :
    e.load decoder bytes =
      (e.rooted (.raw (decoder.text bytes)), .ok (.raw (decoder.text bytes))) := by
  unfold load
  rw [if_pos text]
  rfl

/-- Loading makes the text of the bytes the root, or leaves waiting what it decoded before a
failure, or evaluates what it decoded. What was waiting before has no part in any of these. -/
theorem load_cases (e : Expression) (decoder : Decoder) (bytes : List UInt8) :
    (e.isString = true ∧ e.load decoder bytes =
        (e.rooted (.raw (decoder.text bytes)), .ok (.raw (decoder.text bytes)))) ∨
      (e.isString = false ∧ ∃ cause, (decoder.decodeAll bytes).failure = some cause ∧
        e.load decoder bytes =
          ({ e with pending := (decoder.decodeAll bytes).nodes },
            .error (.ofDecoding e.context (decoder.decodeAll bytes).nodes cause))) ∨
      (e.isString = false ∧ (decoder.decodeAll bytes).failure = none ∧
        e.load decoder bytes = { e with pending := (decoder.decodeAll bytes).nodes }.evaluate) := by
  cases text : e.isString with
  | true => exact .inl ⟨rfl, load_of_isString text decoder bytes⟩
  | false =>
    unfold load
    rw [if_neg (by simp [text])]
    cases failure : (decoder.decodeAll bytes).failure with
    | some cause => exact .inr (.inl ⟨rfl, cause, rfl, by simp only [failure]⟩)
    | none => exact .inr (.inr ⟨rfl, rfl, by simp only [failure]⟩)

/-- The answer of loading is a matter of the decoder, the bytes and the context. -/
theorem answer_load (e : Expression) (decoder : Decoder) (bytes : List UInt8) :
    (e.load decoder bytes).2 = rootOf decoder e.context bytes := by
  have context : e.context.assignment.any Assignment.isString = e.isString := rfl
  unfold rootOf
  rcases e.load_cases decoder bytes with
    ⟨text, load⟩ | ⟨binary, cause, failed, load⟩ | ⟨binary, decodes, load⟩
  · rw [load, context, text]
    rfl
  · rw [load, context, binary, failed]
    rfl
  · rw [load, context, binary, decodes, answer_evaluate]
    rfl

/-- Successful loading leaves nothing waiting and puts its result in place of the root. -/
theorem load_of_ok {root : Node} (h : (e.load decoder bytes).2 = .ok root) :
    (e.load decoder bytes).1 = e.rooted root := by
  rcases e.load_cases decoder bytes with ⟨-, load⟩ | ⟨-, cause, -, load⟩ | ⟨-, -, load⟩ <;>
    rw [load] at h ⊢
  · cases h
    rfl
  · cases h
  · exact evaluate_of_ok h

/-- Loading that fails leaves the decoded nodes waiting, and the root as it was. -/
theorem load_of_error {error : ExpressionError} (h : (e.load decoder bytes).2 = .error error) :
    (e.load decoder bytes).1 = { e with pending := (decoder.decodeAll bytes).nodes } := by
  rcases e.load_cases decoder bytes with ⟨-, load⟩ | ⟨-, cause, -, load⟩ | ⟨-, -, load⟩ <;>
    rw [load] at h ⊢
  · cases h
  · exact evaluate_of_error h

/-! ## One call and many -/

/-- A call answers with a root and leaves it, with nothing waiting, or it answers with none and
changes no more than what is waiting. -/
theorem call_cases (e : Expression) (c : Call) :
    (∃ root, e.call c = (e.rooted root, some (.ok root))) ∨
      ∃ pending answer, e.call c = ({ e with pending := pending }, answer) ∧
        answer.bind Except.toOption = none := by
  cases c with
  | push node => exact .inr ⟨_, none, rfl, rfl⟩
  | evaluate =>
    cases answer : e.evaluate.2 with
    | ok root => exact .inl ⟨root, by rw [call, evaluate_of_ok answer, answer]⟩
    | error error =>
      exact .inr ⟨e.pending, some (.error error), by rw [call, evaluate_of_error answer, answer],
        rfl⟩
  | load decoder bytes =>
    cases answer : (e.load decoder bytes).2 with
    | ok root => exact .inl ⟨root, by rw [call, load_of_ok answer, answer]⟩
    | error error =>
      exact .inr ⟨_, some (.error error), by rw [call, load_of_error answer, answer], rfl⟩

/-- No calls change who the expression belongs to. -/
theorem holder_after (e : Expression) (calls : List Call) : (e.after calls).holder = e.holder := by
  induction calls generalizing e with
  | nil => rfl
  | cons c rest ih =>
    rw [after, ih]
    rcases e.call_cases c with ⟨root, called⟩ | ⟨pending, answer, called, -⟩ <;> rw [called] <;> rfl

/-- Calls leave the last root that they answer with, or the one before if they answer with none. -/
theorem root_after (e : Expression) (calls : List Call) :
    (e.after calls).root = ((e.answers calls).filterMap Except.toOption).getLast?.or e.root := by
  induction calls generalizing e with
  | nil => rfl
  | cons c rest ih =>
    rw [after, ih, answers, List.filterMap_append, List.getLast?_append, Option.or_assoc]
    rcases e.call_cases c with ⟨root, called⟩ | ⟨pending, answer, called, rootless⟩
    · rw [called]
      rfl
    · rw [called]
      match answer, rootless with
      | none, _ => rfl
      | some (.error _), _ => rfl

/-- Whatever was called on an expression that began with nothing, its script, owner and assignment
are the ones it began with, and its root is the last one it answered with. A push adds to what is
waiting. An evaluation is one of what is waiting, and changes nothing if it fails. A loading answers
as it would at the beginning: with the text of all bytes, for an expression of strings, whatever the
decoder makes of them; else with the evaluation of what they are decoded to, or with an error that
lists what was decoded before the failure. A root that is answered with becomes the root, with
nothing waiting, and behind a loading that fails the root is the old one and the decoded nodes
wait. -/
theorem after_calls (scriptId : Int32) (owner : Option Owner) (assignment : Option Assignment)
    (calls : List Call) :
    let start : Expression := { fresh scriptId assignment with owner := owner }
    let e := start.after calls
    (e.scriptId = scriptId ∧ e.owner = owner ∧ e.assignment = assignment) ∧
    e.root = ((start.answers calls).filterMap Except.toOption).getLast? ∧
    (∀ node, e.push node = { e with pending := e.pending ++ [node] }) ∧
    (e.evaluate.2 = NovelScript.evaluate ⟨scriptId, assignment⟩ e.pending ∧
      (∀ root, e.evaluate.2 = .ok root →
        e.evaluate.1 = { e with pending := [], root := some root }) ∧
      ∀ error, e.evaluate.2 = .error error → e.evaluate.1 = e) ∧
    ∀ (decoder : Decoder) (bytes : List UInt8),
      let decoded := decoder.decodeAll bytes
      let answer := (e.load decoder bytes).2
      answer = ((fresh scriptId assignment).load decoder bytes).2 ∧
      (∀ root, answer = .ok root →
        (e.load decoder bytes).1 = { e with pending := [], root := some root }) ∧
      (∀ error, answer = .error error →
        (e.load decoder bytes).1 = { e with pending := decoded.nodes }) ∧
      (assignment.any Assignment.isString = true →
        answer = .ok (.raw (decoder.text bytes)) ∧
          ∀ other : Decoder, other.text = decoder.text →
            e.load other bytes = e.load decoder bytes) ∧
      (assignment.any Assignment.isString = false →
        (decoded.failure = none →
          answer = NovelScript.evaluate ⟨scriptId, assignment⟩ decoded.nodes) ∧
        ∀ cause, decoded.failure = some cause →
          ∃ error, answer = .error error ∧ error.kind = .unhandled ∧
            error.cause = some (.decoding cause) ∧ error.report.position = .outside ∧
            error.report.stack = [] ∧
            error.report.nodes = decoded.nodes.map Node.snapshot) := by
  intro start e
  have held : e.holder = start.holder := start.holder_after calls
  simp only [holder, Prod.mk.injEq] at held
  obtain ⟨sameScript, sameOwner, sameAssignment⟩ := held
  have context : e.context = ⟨scriptId, assignment⟩ := by
    rw [Expression.context, sameScript, sameAssignment]
    rfl
  have root := start.root_after calls
  rw [show start.root = none from rfl, Option.or_none] at root
  refine ⟨⟨sameScript, sameOwner, sameAssignment⟩, root, fun node => rfl,
    ⟨context ▸ e.answer_evaluate, fun _ => evaluate_of_ok, fun _ => evaluate_of_error⟩,
    fun decoder bytes => ?_⟩
  intro decoded answer
  have answered : answer = rootOf decoder ⟨scriptId, assignment⟩ bytes :=
    context ▸ e.answer_load decoder bytes
  refine ⟨?_, fun _ => load_of_ok, fun _ => load_of_error, fun text => ?_, fun binary => ?_⟩
  · rw [answered, answer_load]
    rfl
  · have isString : e.isString = true := by rw [Expression.isString, sameAssignment]; exact text
    refine ⟨congrArg Prod.snd (load_of_isString isString decoder bytes), fun other same => ?_⟩
    rw [load_of_isString isString, load_of_isString isString, same]
  · have given : ¬ assignment.any Assignment.isString = true := by simp [binary]
    rw [answered, rootOf, if_neg given]
    refine ⟨fun decodes => ?_, fun cause failed => ?_⟩
    · rw [show (decoder.decodeAll bytes).failure = none from decodes]
    · rw [show (decoder.decodeAll bytes).failure = some cause from failed]
      exact ⟨_, rfl, rfl, rfl, rfl, rfl, rfl⟩

end Expression

end NovelScript
