import NovelScript.Proofs.Renaming.Outcomes
import NovelScript.Variable.Json

/-!
# Independence — what names, declarations and encodings have no part in

Whether bytes are an expression is a question of the bytes and of the ids that the table lists. What
else is declared of a variable, what bytes are taken for in a string, and what the target of an
assignment is called change the texts in the tree or in the report and nothing about its shape. So
two runs over the same bytes succeed together or fail together, at the same place and for the same
reason.

What is left of a tree without all that is its bare form: strings and keywords are emptied, and of a
variable only the id stays.

## What is proved

`reconstruct_independent`: over tables that list the same ids, with any encodings, and with
assignments of one kind or none, the same bytes have one bare root, or errors of one shape.
-/

set_option autoImplicit false

namespace NovelScript

/-- The renaming that forgets texts and keywords, and all of a variable but its id. -/
def Renaming.forget : Renaming where
  text _ := ""
  var v := { Variable.blank with id := v.id }
  keyword _ := ""

/-- The node without the contents of strings, the names of keywords, and all that is declared of
variables. -/
def Node.bare (node : Node) : Node := node.rename .forget

/-- Errors that differ in no more than the texts of what they show. -/
structure ExpressionError.SameShape (x y : ExpressionError) : Prop where
  kind : x.kind = y.kind
  reason : x.report.reason = y.report.reason
  position : x.report.position = y.report.position
  current : x.report.current.map Snapshot.kind = y.report.current.map Snapshot.kind
  stack : x.report.stack.map Snapshot.kind = y.report.stack.map Snapshot.kind
  nodes : x.report.nodes.map Snapshot.kind = y.report.nodes.map Snapshot.kind
  cause : x.cause = y.cause

/-- Two expressions with one bare root, or two errors of one shape. -/
def SameOutcome : Except ExpressionError Expression → Except ExpressionError Expression → Prop
  | .ok e, .ok e' =>
    ∃ root root', e.root = some root ∧ e'.root = some root' ∧ root.bare = root'.bare
  | .error x, .error y => x.SameShape y
  | _, _ => False

/-! ## Reports -/

/-- Nodes that renaming makes one are of the same kinds. -/
theorem kinds_eq_of_rename_eq {r r' : Renaming} {nodes nodes' : List Node}
    (same : nodes.map (Node.rename r) = nodes'.map (Node.rename r')) :
    (nodes.map Node.snapshot).map Snapshot.kind = (nodes'.map Node.snapshot).map Snapshot.kind := by
  have kinds := congrArg (List.map Node.kind) same
  simpa only [List.map_map, Function.comp_def, Node.kind_rename, Node.snapshot] using kinds

namespace ExpressionError

variable {r r' : Renaming} {context context' : Context} {nodes nodes' : List Node}

/-- Failures that renaming makes one are reported in one shape. -/
theorem sameShape_of_failure {failure failure' : Reduction.Failure}
    (same : nodes.map (Node.rename r) = nodes'.map (Node.rename r'))
    (failures : failure.rename r = failure'.rename r') :
    (ofFailure context nodes failure).SameShape (ofFailure context' nodes' failure') := by
  have lists := kinds_eq_of_rename_eq same
  rcases failure with ⟨index, node, fault, stack⟩ | stack <;>
    rcases failure' with ⟨index', node', fault', stack'⟩ | stack'
  · simp only [Reduction.Failure.rename, Reduction.Halt.rename, Reduction.Failure.halted.injEq,
      Reduction.Halt.mk.injEq] at failures
    obtain ⟨rfl, renamed, rfl, waiting⟩ := failures
    have kind : node.kind = node'.kind := by
      rw [← Node.kind_rename r, renamed, Node.kind_rename]
    have stack := kinds_eq_of_rename_eq waiting
    cases fault with
    | negation error =>
      cases error with
      | overflow => exact ⟨rfl, rfl, rfl, rfl, stack, lists, rfl⟩
      | unsupported => exact ⟨rfl, rfl, rfl, congrArg some kind, stack, lists, rfl⟩
    | _ => exact ⟨rfl, rfl, rfl, congrArg some kind, stack, lists, rfl⟩
  · cases failures
  · cases failures
  · have waiting := Reduction.Failure.notSingle.inj failures
    have length : stack.length = stack'.length := by simpa using congrArg List.length waiting
    exact ⟨rfl, by simp only [ofFailure, ofReport, Report.capture, length], rfl, rfl,
      kinds_eq_of_rename_eq waiting, lists, rfl⟩

/-- What was loaded alike is one in its bare form, or an error of one shape. -/
theorem sameOutcome_of_loadedAlike {e e' : Expression} {x y : Except ExpressionError Node}
    (alike : LoadedAlike .forget .forget context context' x y) :
    SameOutcome (x.map e.rooted) (y.map e'.rooted) := by
  cases alike with
  | root same => exact ⟨_, _, rfl, rfl, same⟩
  | failure same failures => exact sameShape_of_failure same failures
  | undecoded same => exact ⟨rfl, rfl, rfl, rfl, rfl, kinds_eq_of_rename_eq same, rfl⟩

end ExpressionError

/-! ## Two runs -/

/-- Tables that list the same ids read alike once everything but the ids is forgotten, whatever the
encodings. -/
theorem readsAlike_forget {table table' : VariableTable}
    (ids : ∀ id, (table.get? id).isSome = (table'.get? id).isSome)
    (encoding encoding' : TextEncoding) :
    ReadsAlike .forget .forget table table' encoding encoding' where
  vars id := by
    have listed := ids id
    cases found : table.get? id with
    | none =>
      rw [found, Option.isSome_none, eq_comm, Option.isSome_eq_false_iff,
        Option.isNone_iff_eq_none] at listed
      rw [listed]
    | some v =>
      rw [found, Option.isSome_some, eq_comm, Option.isSome_iff_exists] at listed
      obtain ⟨w, found'⟩ := listed
      have first := ((table.get?_eq_some_iff id v).mp found).2
      have second := ((table'.get?_eq_some_iff id w).mp found').2
      simp only [found', Option.map_some, Renaming.forget, first, second]
  texts _ := rfl

/-- Contexts whose assignments are both missing, both of strings or both of something else are alike
once keywords are forgotten. -/
theorem alike_forget {assignment assignment' : Option Assignment} (scriptId scriptId' : Int32)
    (kinds : assignment.map Assignment.isString = assignment'.map Assignment.isString) :
    Context.Alike .forget .forget ⟨scriptId, assignment⟩ ⟨scriptId', assignment'⟩ := by
  cases assignment <;> cases assignment' <;> try cases kinds
  · exact ⟨rfl, rfl⟩
  · exact ⟨Option.some.inj kinds, rfl⟩

/-- The same bytes, under tables that list the same ids, in any encodings, and with assignments that
are both missing, both of strings or both of something else: two expressions with one bare root, or
two errors of one shape. -/
theorem reconstruct_independent (bytes : List UInt8) {table table' : VariableTable}
    (ids : ∀ id, (table.get? id).isSome = (table'.get? id).isSome)
    {assignment assignment' : Option Assignment}
    (kinds : assignment.map Assignment.isString = assignment'.map Assignment.isString)
    (encoding encoding' : TextEncoding) :
    SameOutcome (reconstruct bytes assignment table encoding)
      (reconstruct bytes assignment' table' encoding') := by
  rw [reconstruct_eq, reconstruct_eq]
  exact ExpressionError.sameOutcome_of_loadedAlike
    (rootOf_alike (readsAlike_forget ids encoding encoding') (alike_forget _ _ kinds) bytes)

/-- Another scope, name, type and value, another encoding and another target, and still one shape:
the strings differ by what the bytes are taken for. -/
theorem reconstruct_independent_renamed :
    let table := VariableTable.ofList [⟨.global, 0, 1, 1, [3], none, none⟩]
    let table' := VariableTable.ofList [⟨.script, 7, 1, 3, [], some "name", some (.int 5)⟩]
    let assignment : Assignment := ⟨⟨some "x", .int⟩, "+="⟩
    let assignment' : Assignment := ⟨⟨none, .any⟩, "="⟩
    let bytes : List UInt8 := [0x48, 3, 0, 0x24, 1, 0, 0x4D, 2, 0, 0xC3, 0xA9, 0x2B, 0, 0]
    (∀ id, (table.get? id).isSome = (table'.get? id).isSome) ∧
      (reconstruct bytes (some assignment) table .utf8).map Expression.source =
        .ok "x+=$g1+\"é\"" ∧
      (reconstruct bytes (some assignment') table' .shiftJis).map Expression.source =
        .ok "$name+\"ﾃｩ\"" ∧
      SameOutcome (reconstruct bytes (some assignment) table .utf8)
        (reconstruct bytes (some assignment') table' .shiftJis) := by
  intro table table' assignment assignment' bytes
  have ids : ∀ id, (table.get? id).isSome = (table'.get? id).isSome := by
    intro id
    by_cases same : (1 : UInt16) = id <;>
      simp [table, table', VariableTable.get?, VariableTable.ofList, VariableTable.insert,
        VariableTable.insertEntry, VariableTable.empty, same]
  have kinds : (some assignment).map Assignment.isString =
      (some assignment').map Assignment.isString := rfl
  exact ⟨ids, by with_unfolding_all rfl, by with_unfolding_all rfl,
    reconstruct_independent bytes ids kinds .utf8 .shiftJis⟩

end NovelScript
