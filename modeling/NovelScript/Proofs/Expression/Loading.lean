import NovelScript.Expression.Basic
import NovelScript.Proofs.Reduction.Rollback

/-!
# Loading — what bytes become, apart from who owns them

An expression that loads bytes answers with a root or an error, and both are settled by the decoder,
the bytes and the assignment (`rootOf`). Who owns the expression shows in two places only: the owner
stays in the expression, and the script's id stands in the report of an error.

## What is proved

`Expression.map_load`: loading leaves the root in the expression and nothing waiting, or answers
with the error. `rootOf_eq_mapError`: the id is all that the errors of two scripts differ in.
-/

set_option autoImplicit false

namespace NovelScript

/-- The root that bytes are loaded for in a context, or the error. -/
def rootOf (decoder : Decoder) (context : Context) (bytes : List UInt8) :
    Except ExpressionError Node :=
  if context.assignment.any Assignment.isString then .ok (.raw (decoder.text bytes))
  else
    match (decoder.decodeAll bytes).failure with
    | some error => .error (.ofDecoding context (decoder.decodeAll bytes).nodes error)
    | none => evaluate context (decoder.decodeAll bytes).nodes

/-- The error as an expression of a script reports it. -/
def ExpressionError.ofScript (scriptId : Int32) (e : ExpressionError) : ExpressionError :=
  { e with report := { e.report with scriptId := scriptId } }

variable {decoder : Decoder} {bytes : List UInt8}

namespace Expression

/-- The expression with its root found and nothing waiting. -/
def rooted (e : Expression) (root : Node) : Expression :=
  { e with pending := [], root := some root }

variable {α : Type} (f : Expression → α)

/-- What is made of an expression after a successful evaluation is made of it with its root. -/
theorem map_evaluate (e : Expression) :
    (e.evaluate.2.map fun _ => f e.evaluate.1) =
      (NovelScript.evaluate e.context e.pending).map fun root => f (e.rooted root) := by
  unfold evaluate
  cases NovelScript.evaluate e.context e.pending <;> rfl

/-- What is made of an expression after successful loading is made of it with its root. -/
theorem map_load (e : Expression) :
    ((e.load decoder bytes).2.map fun _ => f (e.load decoder bytes).1) =
      (rootOf decoder e.context bytes).map fun root => f (e.rooted root) := by
  unfold load rootOf
  by_cases isText : e.isString
  · rw [if_pos isText, if_pos (show e.context.assignment.any _ = true from isText), map_evaluate]
    rfl
  · rw [if_neg isText, if_neg (show ¬ e.context.assignment.any _ = true from isText)]
    dsimp only
    cases (decoder.decodeAll bytes).failure with
    | some error => rfl
    | none => exact map_evaluate f { e with pending := (decoder.decodeAll bytes).nodes }

end Expression

/-- One expression on its own is reconstructed to its root, or fails with the error. -/
theorem reconstruct_eq (bytes : List UInt8) (assignment : Option Assignment)
    (table : VariableTable) (encoding : TextEncoding) :
    reconstruct bytes assignment table encoding =
      (rootOf (.ofTable table encoding) ⟨standaloneScriptId, assignment⟩ bytes).map
        (Expression.fresh standaloneScriptId assignment).rooted :=
  (Expression.fresh standaloneScriptId assignment).map_load id

/-! ## The script's id -/

/-- A failed reduction is reported alike in all scripts but for their ids. -/
theorem ExpressionError.ofFailure_ofScript (scriptId other : Int32) (assignment : Option Assignment)
    (nodes : List Node) (failure : Reduction.Failure) :
    (ofFailure ⟨other, assignment⟩ nodes failure).ofScript scriptId =
      ofFailure ⟨scriptId, assignment⟩ nodes failure := by
  rcases failure with ⟨index, node, fault, stack⟩ | stack
  · cases fault with
    | negation error => cases error <;> rfl
    | _ => rfl
  · rfl

/-- The id is all that the errors of two scripts differ in; the roots are the same. -/
theorem rootOf_eq_mapError (scriptId other : Int32) (assignment : Option Assignment) :
    rootOf decoder ⟨scriptId, assignment⟩ bytes =
      (rootOf decoder ⟨other, assignment⟩ bytes).mapError (ExpressionError.ofScript scriptId) := by
  unfold rootOf
  split
  next => rfl
  next =>
    split
    next => rfl
    next =>
      rw [Reduction.evaluate_eq, Reduction.evaluate_eq]
      -- The keyword that stands in for a missing operand comes from the assignment alone.
      change (Reduction.reduce (Context.standIn ⟨other, assignment⟩) _).mapError _ = _
      cases Reduction.reduce (Context.standIn ⟨other, assignment⟩) _ with
      | ok root => rfl
      | error failure =>
        exact congrArg Except.error (ExpressionError.ofFailure_ofScript ..).symm

end NovelScript
