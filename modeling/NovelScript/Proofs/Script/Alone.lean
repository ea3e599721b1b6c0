import NovelScript.Proofs.Results
import NovelScript.Proofs.Expression.Loading
import NovelScript.Script.Json

/-!
# Alone — a script is its expressions, each on its own

A script is reconstructed by two nested loops that stop at the first failure. What they do at one
expression is what reconstruction of that expression alone does: the place goes into the expression
and the script's id into the report, and neither has a part in the root, the text or the reason.

Both loops are one traversal, which numbers the elements and hands a state from one to the next. So
what success and failure of a traversal mean is said once, and then read for expressions and for
commands.

## What is proved

`CompiledExpression.reconstruct_eq`: one expression, at its place and alone.
`CompiledScript.reconstruct_alone`: a whole script, its successes and its first failure.
-/

set_option autoImplicit false

namespace NovelScript

/-! ## Traversals that stop at the first failure -/

section Traversal

variable {α β ε σ : Type} (step : Nat → σ → α → Except ε β) (next : σ → α → σ)

/-- The results at the elements of a list, each found from its number and the state that the
elements before it leave; the first failure is the failure of all. -/
def traverse : Nat → σ → List α → Except ε (List β)
  | _, _, [] => .ok []
  | n, s, a :: rest =>
    match step n s a with
    | .error e => .error e
    | .ok b => (traverse (n + 1) (next s a) rest).map (b :: ·)

variable {step next}

/-- A traversal that succeeds has one result for each element, found at its number. -/
theorem getElem?_of_traverse {n : Nat} {s : σ} {l : List α} {results : List β}
    (done : traverse step next n s l = .ok results) :
    results.length = l.length ∧ ∀ i a, l[i]? = some a →
      ∃ b, results[i]? = some b ∧ ∃ s', step (n + i) s' a = .ok b := by
  induction l generalizing n s results with
  | nil =>
    cases done
    exact ⟨rfl, nofun⟩
  | cons a rest ih =>
    rw [traverse] at done
    cases first : step n s a with
    | error e => rw [first] at done; cases done
    | ok b =>
      rw [first] at done
      obtain ⟨bs, others, rfl⟩ := exists_of_map_eq_ok done
      obtain ⟨length, each⟩ := ih others
      refine ⟨congrArg (· + 1) length, fun i a' found => ?_⟩
      cases i with
      | zero =>
        cases found
        exact ⟨b, rfl, s, first⟩
      | succ i =>
        have result := each i a' found
        rwa [Nat.add_assoc, Nat.add_comm 1] at result

/-- Traversals that do the same at the numbers of the elements are one. -/
theorem traverse_congr {step' : Nat → σ → α → Except ε β} {n : Nat} {s : σ} {l : List α}
    (same : ∀ i < l.length, ∀ s a, step (n + i) s a = step' (n + i) s a) :
    traverse step next n s l = traverse step' next n s l := by
  induction l generalizing n s with
  | nil => rfl
  | cons a rest ih =>
    have later : ∀ i < rest.length, ∀ s a, step (n + 1 + i) s a = step' (n + 1 + i) s a := by
      intro i within s a
      have here := same (i + 1) (Nat.succ_lt_succ within) s a
      rwa [← Nat.add_assoc, Nat.add_right_comm] at here
    have here : step n s a = step' n s a := same 0 (Nat.succ_pos _) s a
    rw [traverse, traverse, here, ih later]

variable {Succeeds : α → Prop}

/-- Where success at an element is a question of the element, a traversal fails exactly if an
element fails and those before it succeed. The elements behind it do not matter. -/
theorem traverse_eq_error_iff (alone : ∀ n s a, (∃ b, step n s a = .ok b) ↔ Succeeds a) {n : Nat}
    {s : σ} {l : List α} {e : ε} :
    traverse step next n s l = .error e ↔ ∃ i a, l[i]? = some a ∧ (∀ b ∈ l.take i, Succeeds b) ∧
      step (n + i) ((l.take i).foldl next s) a = .error e := by
  induction l generalizing n s with
  | nil => simp [traverse]
  | cons a rest ih =>
    rw [traverse]
    cases first : step n s a with
    | error e' =>
      constructor
      · rintro ⟨⟩
        exact ⟨0, a, rfl, nofun, first⟩
      · rintro ⟨i, a', found, succeed, fails⟩
        cases i with
        | zero =>
          cases found
          cases first.symm.trans fails
          rfl
        | succ i =>
          obtain ⟨_, done⟩ := (alone n s a).mpr (succeed a List.mem_cons_self)
          rw [first] at done
          cases done
    | ok b =>
      refine map_eq_error_iff.trans (ih.trans ?_)
      constructor
      · rintro ⟨i, a', found, succeed, fails⟩
        refine ⟨i + 1, a', found, ?_, ?_⟩
        · exact List.forall_mem_cons.mpr ⟨(alone n s a).mp ⟨b, first⟩, succeed⟩
        · rw [Nat.add_right_comm] at fails
          exact fails
      · rintro ⟨i, a', found, succeed, fails⟩
        cases i with
        | zero =>
          cases found
          cases first.symm.trans fails
        | succ i =>
          refine ⟨i, a', found, (List.forall_mem_cons.mp succeed).2, ?_⟩
          rw [Nat.add_right_comm]
          exact fails

/-- Where success at an element is a question of the element, a traversal succeeds exactly if all
elements do. -/
theorem traverse_eq_ok_iff (alone : ∀ n s a, (∃ b, step n s a = .ok b) ↔ Succeeds a) {n : Nat}
    {s : σ} {l : List α} :
    (∃ results, traverse step next n s l = .ok results) ↔ ∀ a ∈ l, Succeeds a := by
  constructor
  · rintro ⟨results, done⟩ a mem
    obtain ⟨i, found⟩ := List.getElem?_of_mem mem
    obtain ⟨b, -, s', first⟩ := (getElem?_of_traverse done).2 i a found
    exact (alone _ s' a).mp ⟨b, first⟩
  · intro succeed
    cases outcome : traverse step next n s l with
    | ok results => exact ⟨results, rfl⟩
    | error e =>
      obtain ⟨i, a, found, -, fails⟩ := (traverse_eq_error_iff alone).mp outcome
      obtain ⟨b, done⟩ := (alone (n + i) ((l.take i).foldl next s) a).mpr
        (succeed a (List.mem_of_getElem? found))
      rw [fails] at done
      cases done

end Traversal

variable {table : VariableTable} {encoding : TextEncoding}

/-! ## One expression -/

namespace CompiledExpression

/-- The expression reconstructed as if it belonged to no script: in an assignment to its target, if
it has one, by its load operator, if it names one, and by `=` otherwise. -/
def alone (e : CompiledExpression) (table : VariableTable) (encoding : TextEncoding) :
    Except ExpressionError Expression :=
  NovelScript.reconstruct e.bytes (e.target.map fun target => ⟨target, e.loadOp.getD "="⟩) table
    encoding

/-- Whether the expression can be reconstructed alone. -/
def Succeeds (e : CompiledExpression) (table : VariableTable) (encoding : TextEncoding) : Prop :=
  ∃ done, e.alone table encoding = .ok done

/-- What was reconstructed alone, put at a place of a script. -/
def placed (e : CompiledExpression) (scriptId : Int32) (owner : Owner) (done : Expression) :
    ScriptExpression :=
  ⟨e.id, e.flag, e.argLoadFn, e.argLoadOp, { done with scriptId := scriptId, owner := some owner }⟩

/-- At its place an expression gives what it gives alone, or fails as it fails alone. -/
theorem reconstruct_eq (e : CompiledExpression) (scriptId : Int32) (owner : Owner) :
    e.reconstruct (.ofTable table encoding) scriptId owner =
      ((e.alone table encoding).map (e.placed scriptId owner)).mapError
        (ExpressionError.ofScript scriptId) := by
  -- The assignment of an expression at its place is the one that it is given alone.
  have assigned : (e.target.map fun target => ⟨target, e.loadOp.getD "="⟩) = e.assignment := rfl
  unfold alone
  rw [assigned, NovelScript.reconstruct_eq]
  have loaded := @Expression.map_load (.ofTable table encoding) e.bytes _
    (ScriptExpression.mk e.id e.flag e.argLoadFn e.argLoadOp)
    ((Expression.fresh scriptId e.assignment).ownedBy owner)
  refine loaded.trans ?_
  change (rootOf _ ⟨scriptId, e.assignment⟩ _).map _ = _
  rw [rootOf_eq_mapError scriptId standaloneScriptId]
  cases rootOf (.ofTable table encoding) ⟨standaloneScriptId, e.assignment⟩ e.bytes <;> rfl

end CompiledExpression

/-- Whether all expressions of the command can be reconstructed alone. -/
def CompiledCommand.Succeeds (c : CompiledCommand) (table : VariableTable)
    (encoding : TextEncoding) : Prop :=
  ∀ e ∈ c.expressions, e.Succeeds table encoding

/-- The expression of a script shows the root and the text that the compiled one has alone. -/
def ScriptExpression.Shows (x : ScriptExpression) (table : VariableTable) (encoding : TextEncoding)
    (e : CompiledExpression) : Prop :=
  ∃ done, e.alone table encoding = .ok done ∧ x.expression.root = done.root ∧
    x.expression.source = done.source

/-- The command stands for the compiled one at a place: it has that index and that name, counts the
expressions, and shows each of them as it is alone. -/
structure Command.StandsFor (command : Command) (table : VariableTable) (encoding : TextEncoding)
    (c : CompiledCommand) (place : Nat) : Prop where
  index : command.index = place
  name : command.name = c.name
  length : command.expressions.length = c.expressions.length
  exprCount : command.toJson.get? "exprCount" = some (.int c.expressions.length)
  expressions : ∀ (i : Nat) e, c.expressions[i]? = some e →
    ∃ x : ScriptExpression, command.expressions[i]? = some x ∧ x.Shows table encoding e

namespace CompiledScript

variable (script : CompiledScript)

/-- The expression at a place is the first of the script that fails alone: all expressions of the
commands before succeed, and those before it in its own command. -/
structure FailsFirst (table : VariableTable) (encoding : TextEncoding) (place : Owner)
    (c : CompiledCommand) (e : CompiledExpression) (x : ExpressionError) : Prop where
  command : script.commands[place.command]? = some c
  expression : c.expressions[place.expression]? = some e
  before : ∀ b ∈ script.commands.take place.command, b.Succeeds table encoding
  earlier : ∀ b ∈ c.expressions.take place.expression, b.Succeeds table encoding
  fails : e.alone table encoding = .error x

/-- What comes behind the first failure has no part in its being the first. -/
theorem FailsFirst.agree {script other : CompiledScript} {place : Owner} {c c' : CompiledCommand}
    {e : CompiledExpression} {x : ExpressionError}
    (first : script.FailsFirst table encoding place c e x)
    (before : other.commands.take place.command = script.commands.take place.command)
    (command : other.commands[place.command]? = some c')
    (expressions : c'.expressions.take (place.expression + 1) =
      c.expressions.take (place.expression + 1)) :
    other.FailsFirst table encoding place c' e x where
  command := command
  expression := by
    rw [← List.getElem?_take_of_succ, expressions, List.getElem?_take_of_succ, first.expression]
  before := before ▸ first.before
  earlier := by
    have earlier := congrArg (List.take place.expression) expressions
    rw [List.take_take, List.take_take, Nat.min_eq_left (Nat.le_succ _)] at earlier
    exact earlier ▸ first.earlier
  fails := first.fails

/-! ## The expressions of a command -/

section Expressions

variable {index number : Nat} {command : String} {expressions : List CompiledExpression}

/-- The expressions of a command are traversed. -/
theorem expressionsFrom_eq_traverse (decoder : Decoder) :
    script.expressionsFrom decoder index command number expressions =
      traverse (fun n (_ : Unit) e => (e.reconstruct decoder script.scriptId ⟨index, n⟩).mapError
        fun x => ⟨script.scriptId, index, command, n, x⟩) (fun s _ => s) number () expressions := by
  induction expressions generalizing number with
  | nil => rfl
  | cons e rest ih =>
    rw [expressionsFrom, traverse, ← ih]
    cases e.reconstruct decoder script.scriptId ⟨index, number⟩ <;> rfl

/-- An expression succeeds at its place with what it gives alone. -/
theorem step_eq_ok_iff {e : CompiledExpression} {x : ScriptExpression}
    {f : ExpressionError → ScriptError} {owner : Owner} :
    (e.reconstruct (.ofTable table encoding) script.scriptId owner).mapError f = .ok x ↔
      ∃ done, e.alone table encoding = .ok done ∧ x = e.placed script.scriptId owner done := by
  rw [e.reconstruct_eq, mapError_eq_ok_iff, mapError_eq_ok_iff, map_eq_ok_iff]
  simp only [@eq_comm _ x]

/-- An expression fails at its place for the reason that it fails for alone. -/
theorem step_eq_error_iff {e : CompiledExpression} {error : ScriptError}
    {f : ExpressionError → ScriptError} {owner : Owner} :
    (e.reconstruct (.ofTable table encoding) script.scriptId owner).mapError f = .error error ↔
      ∃ x, e.alone table encoding = .error x ∧ error = f (x.ofScript script.scriptId) := by
  rw [e.reconstruct_eq, mapError_eq_error_iff]
  simp only [mapError_eq_error_iff, map_eq_error_iff]
  constructor
  · rintro ⟨_, ⟨x, alone, rfl⟩, rfl⟩
    exact ⟨x, alone, rfl⟩
  · rintro ⟨x, alone, rfl⟩
    exact ⟨_, ⟨x, alone, rfl⟩, rfl⟩

/-- Whether an expression succeeds at its place is a question of the expression. -/
theorem step_succeeds_iff {f : Nat → ExpressionError → ScriptError} (n : Nat) (_ : Unit)
    (e : CompiledExpression) :
    (∃ x, (e.reconstruct (.ofTable table encoding) script.scriptId ⟨index, n⟩).mapError (f n) =
      .ok x) ↔ e.Succeeds table encoding := by
  simp only [step_eq_ok_iff]
  exact ⟨fun ⟨_, done, alone, _⟩ => ⟨done, alone⟩, fun ⟨done, alone⟩ => ⟨_, done, alone, rfl⟩⟩

/-- The expressions of a command succeed exactly if each does alone. -/
theorem expressionsFrom_succeeds_iff :
    (∃ done, script.expressionsFrom (.ofTable table encoding) index command number expressions =
      .ok done) ↔ ∀ e ∈ expressions, e.Succeeds table encoding := by
  rw [expressionsFrom_eq_traverse]
  exact traverse_eq_ok_iff script.step_succeeds_iff

/-- The expressions of a command fail exactly if one fails alone and those before it succeed. -/
theorem expressionsFrom_eq_error_iff {error : ScriptError} :
    script.expressionsFrom (.ofTable table encoding) index command number expressions =
        .error error ↔
      ∃ i e, expressions[i]? = some e ∧ (∀ b ∈ expressions.take i, b.Succeeds table encoding) ∧
        ∃ x, e.alone table encoding = .error x ∧ error =
          ⟨script.scriptId, index, command, number + i, x.ofScript script.scriptId⟩ := by
  rw [expressionsFrom_eq_traverse]
  refine (traverse_eq_error_iff script.step_succeeds_iff).trans ?_
  simp only [step_eq_error_iff]

/-- The expressions of a command that succeed show what they are alone. -/
theorem shows_of_expressionsFrom {done : List ScriptExpression}
    (h : script.expressionsFrom (.ofTable table encoding) index command number expressions =
      .ok done) :
    done.length = expressions.length ∧ ∀ (i : Nat) e, expressions[i]? = some e →
      ∃ x : ScriptExpression, done[i]? = some x ∧ x.Shows table encoding e := by
  rw [expressionsFrom_eq_traverse] at h
  obtain ⟨length, each⟩ := getElem?_of_traverse h
  refine ⟨length, fun i e found => ?_⟩
  obtain ⟨x, stands, -, result⟩ := each i e found
  obtain ⟨root, alone, rfl⟩ := (script.step_eq_ok_iff).mp result
  exact ⟨_, stands, root, alone, rfl, rfl⟩

end Expressions

/-! ## The commands of a script -/

/-- The names of the labels that point at a command. -/
def labelsAt (index : Nat) : List String :=
  (script.labels.filter fun l => l.command == index).map Label.name

/-- A command at a number and a depth. -/
def commandAt (decoder : Decoder) (index depth : Nat) (c : CompiledCommand) :
    Except ScriptError Command :=
  (script.expressionsFrom decoder index c.name 0 c.expressions).map fun expressions =>
    { index := index
      name := c.name
      code := c.code
      labelId := c.labelId
      lineNumber := c.lineNumber
      nest := (BlockRole.ofName c.name).place depth
      labels := script.labelsAt index
      expressions := expressions }

/-- The commands of a script are traversed, and hand on the depth. As long as the labels of all
commands to come are waiting, each takes those that point at it. -/
theorem commandsFrom_eq_traverse (decoder : Decoder) {index depth : Nat} {waiting : LabelTable}
    {commands : List CompiledCommand}
    (waits : ∀ i, index ≤ i → waiting.names i = script.labelsAt i) :
    script.commandsFrom decoder index depth waiting commands =
      traverse (script.commandAt decoder) (fun depth c => (BlockRole.ofName c.name).next depth)
        index depth commands := by
  induction commands generalizing index depth waiting with
  | nil => rfl
  | cons c rest ih =>
    have later : ∀ i, index + 1 ≤ i → (waiting.without index).names i = script.labelsAt i := by
      intro i behind
      rw [LabelTable.names_without, if_neg (by omega), waits i (by omega)]
    rw [commandsFrom, traverse, commandAt, ← ih later, waits index (Nat.le_refl index)]
    cases script.expressionsFrom decoder index c.name 0 c.expressions <;> rfl

/-- A script is reconstructed by one traversal of its commands. -/
theorem reconstruct_eq_traverse (decoder : Decoder) :
    script.reconstruct decoder =
      (traverse (script.commandAt decoder) (fun depth c => (BlockRole.ofName c.name).next depth)
        0 0 script.commands).map fun commands => ⟨script.scriptId, script.source, commands⟩ := by
  rw [reconstruct, script.commandsFrom_eq_traverse decoder fun i _ =>
    LabelTable.names_ofList script.labels i]

/-- Whether a command succeeds is a question of its expressions. -/
theorem commandAt_succeeds_iff (index depth : Nat) (c : CompiledCommand) :
    (∃ command, script.commandAt (.ofTable table encoding) index depth c = .ok command) ↔
      c.Succeeds table encoding := by
  unfold commandAt CompiledCommand.Succeeds
  rw [← @expressionsFrom_succeeds_iff table encoding script index 0 c.name c.expressions]
  exact exists_map_eq_ok_iff

/-- A command that succeeds stands for the compiled one. -/
theorem standsFor_of_commandAt {index depth : Nat} {c : CompiledCommand} {command : Command}
    (h : script.commandAt (.ofTable table encoding) index depth c = .ok command) :
    command.StandsFor table encoding c index := by
  obtain ⟨expressions, found, rfl⟩ := exists_of_map_eq_ok h
  obtain ⟨length, each⟩ := script.shows_of_expressionsFrom found
  refine ⟨rfl, rfl, length, ?_, each⟩
  exact congrArg (fun n : Nat => some (Json.int n)) length

/-- A command fails exactly if one of its expressions fails alone and those before it succeed. -/
theorem commandAt_eq_error_iff {index depth : Nat} {c : CompiledCommand} {error : ScriptError} :
    script.commandAt (.ofTable table encoding) index depth c = .error error ↔
      ∃ (i : Nat) (e : CompiledExpression), c.expressions[i]? = some e ∧
        (∀ b ∈ c.expressions.take i, b.Succeeds table encoding) ∧
        ∃ x, e.alone table encoding = .error x ∧ error =
          ⟨script.scriptId, index, c.name, i, x.ofScript script.scriptId⟩ := by
  have expressions := @expressionsFrom_eq_error_iff table encoding script index 0 c.name
    c.expressions error
  simp only [Nat.zero_add] at expressions
  rw [← expressions, commandAt]
  exact map_eq_error_iff

/-- A script fails exactly if one of its expressions fails alone and those before it succeed, and
then with the error of that one at its place. -/
theorem reconstruct_eq_error_iff {error : ScriptError} :
    script.reconstruct (.ofTable table encoding) = .error error ↔
      ∃ place c e x, script.FailsFirst table encoding place c e x ∧ error =
        ⟨script.scriptId, place.command, c.name, place.expression,
          x.ofScript script.scriptId⟩ := by
  have commands := @traverse_eq_error_iff _ _ _ _ _
    (fun depth c => (BlockRole.ofName c.name).next depth) _
    (@commandAt_succeeds_iff table encoding script) 0 0 script.commands error
  simp only [commandAt_eq_error_iff, Nat.zero_add] at commands
  rw [reconstruct_eq_traverse, map_eq_error_iff]
  refine commands.trans ⟨?_, ?_⟩
  · rintro ⟨i, c, command, before, j, e, expression, earlier, x, fails, rfl⟩
    exact ⟨⟨i, j⟩, c, e, x, ⟨command, expression, before, earlier, fails⟩, rfl⟩
  · rintro ⟨place, c, e, x, ⟨command, expression, before, earlier, fails⟩, rfl⟩
    exact ⟨_, c, command, before, _, e, expression, earlier, x, fails, rfl⟩

/-- A script succeeds exactly if all its expressions do alone. -/
theorem reconstruct_succeeds_iff :
    (∃ done, script.reconstruct (.ofTable table encoding) = .ok done) ↔
      ∀ c ∈ script.commands, c.Succeeds table encoding := by
  rw [← traverse_eq_ok_iff (@commandAt_succeeds_iff table encoding script),
    reconstruct_eq_traverse]
  exact exists_map_eq_ok_iff

/-- The commands of a script that succeeds stand for the compiled ones, each at its place. -/
theorem standsFor_of_reconstruct {done : Script}
    (h : script.reconstruct (.ofTable table encoding) = .ok done) :
    done.commands.length = script.commands.length ∧ ∀ (i : Nat) c, script.commands[i]? = some c →
      ∃ command : Command, done.commands[i]? = some command ∧
        command.StandsFor table encoding c i := by
  rw [reconstruct_eq_traverse] at h
  obtain ⟨commands, found, rfl⟩ := exists_of_map_eq_ok h
  obtain ⟨length, each⟩ := getElem?_of_traverse found
  refine ⟨length, fun i c stands => ?_⟩
  obtain ⟨command, listed, depth, result⟩ := each i c stands
  rw [Nat.zero_add] at result
  exact ⟨command, listed, script.standsFor_of_commandAt result⟩

/-- A script succeeds exactly if all its expressions do alone, and then its commands stand for the
compiled ones and show them as they are alone. Otherwise it fails with the error of the first
expression that fails alone, and so does every script of that id that agrees with it up to there:
on the commands before, on the name of the command, and on its expressions as far as the failing
one. -/
theorem reconstruct_alone (table : VariableTable) (encoding : TextEncoding) :
    ((∃ done, script.reconstruct (.ofTable table encoding) = .ok done) ↔
      ∀ c ∈ script.commands, ∀ e ∈ c.expressions,
        ∃ done, NovelScript.reconstruct e.bytes
          (e.target.map fun target => ⟨target, e.loadOp.getD "="⟩) table encoding = .ok done) ∧
    (∀ done, script.reconstruct (.ofTable table encoding) = .ok done →
      done.commands.length = script.commands.length ∧
        ∀ (i : Nat) c, script.commands[i]? = some c →
          ∃ command : Command, done.commands[i]? = some command ∧
            command.StandsFor table encoding c i) ∧
    ∀ error, script.reconstruct (.ofTable table encoding) = .error error →
      ∃ place c e x, script.FailsFirst table encoding place c e x ∧
        error = ⟨script.scriptId, place.command, c.name, place.expression,
          x.ofScript script.scriptId⟩ ∧
        ∀ (other : CompiledScript) (c' : CompiledCommand), other.scriptId = script.scriptId →
          other.commands.take place.command = script.commands.take place.command →
          other.commands[place.command]? = some c' → c'.name = c.name →
          c'.expressions.take (place.expression + 1) =
            c.expressions.take (place.expression + 1) →
          other.reconstruct (.ofTable table encoding) = .error error := by
  refine ⟨script.reconstruct_succeeds_iff, fun done h => script.standsFor_of_reconstruct h,
    fun error h => ?_⟩
  obtain ⟨place, c, e, x, first, rfl⟩ := script.reconstruct_eq_error_iff.mp h
  refine ⟨place, c, e, x, first, rfl, fun other c' id before command name expressions => ?_⟩
  refine other.reconstruct_eq_error_iff.mpr ⟨place, c', e, x, ?_, by rw [id, name]⟩
  exact first.agree before command expressions

end CompiledScript

end NovelScript
