import NovelScript.Proofs.Expression.Loading
import NovelScript.Proofs.Renaming.Tokens

/-!
# Renaming and loading — two expressions loaded from the same bytes

Where two decoders read alike up to renaming, and the contexts agree on whether there is an
assignment and whether it is a string, the same bytes are loaded alike: to roots that renaming makes
one, or to errors of one origin. An error has two origins, a list that could not be reduced and
bytes that could not be decoded, and what the two sides then have in common is said of the lists and
of the failure, before either is put into a report (`LoadedAlike`).

## What is proved

`rootOf_alike`: decoders that read alike load alike.
-/

set_option autoImplicit false

namespace NovelScript

/-- What two contexts made of the same bytes: roots that renaming makes one, or errors of lists and
of failures that renaming makes one. -/
inductive LoadedAlike (r r' : Renaming) (context context' : Context) :
    Except ExpressionError Node → Except ExpressionError Node → Prop
  | root {root root' : Node} : root.rename r = root'.rename r' →
      LoadedAlike r r' context context' (.ok root) (.ok root')
  | failure {nodes nodes' : List Node} {failure failure' : Reduction.Failure} :
      nodes.map (Node.rename r) = nodes'.map (Node.rename r') →
      failure.rename r = failure'.rename r' →
      LoadedAlike r r' context context' (.error (.ofFailure context nodes failure))
        (.error (.ofFailure context' nodes' failure'))
  | undecoded {nodes nodes' : List Node} {error : DecodeError} :
      nodes.map (Node.rename r) = nodes'.map (Node.rename r') →
      LoadedAlike r r' context context' (.error (.ofDecoding context nodes error))
        (.error (.ofDecoding context' nodes' error))

/-- Contexts with an assignment on both sides or on neither, of a string on both sides or on
neither, and with keywords that renaming makes one. -/
structure Context.Alike (r r' : Renaming) (context context' : Context) : Prop where
  isString : context.assignment.any Assignment.isString =
    context'.assignment.any Assignment.isString
  standIn : context.standIn.map r.keyword = context'.standIn.map r'.keyword

variable {r r' : Renaming} {context context' : Context}

/-- Lists that renaming makes one are evaluated alike. -/
theorem evaluate_alike (alike : Context.Alike r r' context context') {nodes nodes' : List Node}
    (same : nodes.map (Node.rename r) = nodes'.map (Node.rename r')) :
    LoadedAlike r r' context context' (evaluate context nodes) (evaluate context' nodes') := by
  have outcomes : Reduction.renameOutcome r (Reduction.reduce context.standIn nodes) =
      Reduction.renameOutcome r' (Reduction.reduce context'.standIn nodes') := by
    rw [← Reduction.reduce_rename, ← Reduction.reduce_rename, alike.standIn, same]
  rw [Reduction.evaluate_eq, Reduction.evaluate_eq]
  cases reduced : Reduction.reduce context.standIn nodes with
  | ok root =>
    cases reduced' : Reduction.reduce context'.standIn nodes' with
    | ok root' =>
      rw [reduced, reduced'] at outcomes
      exact .root (Except.ok.inj outcomes)
    | error failure' => rw [reduced, reduced'] at outcomes; cases outcomes
  | error failure =>
    cases reduced' : Reduction.reduce context'.standIn nodes' with
    | ok root' => rw [reduced, reduced'] at outcomes; cases outcomes
    | error failure' =>
      rw [reduced, reduced'] at outcomes
      exact .failure same (Except.error.inj outcomes)

/-- Decoders that read alike load alike. -/
theorem rootOf_alike {table table' : VariableTable} {encoding encoding' : TextEncoding}
    (reads : ReadsAlike r r' table table' encoding encoding')
    (alike : Context.Alike r r' context context') (bytes : List UInt8) :
    LoadedAlike r r' context context' (rootOf (.ofTable table encoding) context bytes)
      (rootOf (.ofTable table' encoding') context' bytes) := by
  have decoded := Decoded.mk.inj (Decoder.decodeAll_rename reads bytes)
  unfold rootOf
  rw [← alike.isString, ← decoded.2]
  by_cases isText : context.assignment.any Assignment.isString
  · rw [if_pos isText, if_pos isText]
    exact .root (congrArg Node.raw (reads.texts bytes))
  · rw [if_neg isText, if_neg isText]
    cases ((Decoder.ofTable table encoding).decodeAll bytes).failure with
    | some error => exact .undecoded decoded.1
    | none => exact evaluate_alike alike decoded.1

end NovelScript
