import NovelScript.Proofs.Text.Lines
import NovelScript.Script.Text

/-!
# The lines of a script — one for a label, one for a command

The text of a script is written line by line. Into the lines go texts that are taken over as they
are: names of commands, labels and variables, keywords and load operators, strings (`contents`). All
the rest is numbers and signs, which break no line. So whatever breaks a line of a script comes from
such a text, and it does break the line: nothing is done about a break on the way.

## What is proved

`Node.breaks_source`, `Expression.breaks_source` and `Command.breaks_lines`: the breaks in what is
written are those of the texts taken over. `text_lines`: the lines of a script's text are its labels
and commands exactly if no text taken over has a break, and else there is one more for each.
`text_lines_broken`: a command whose string has a break reads as two lines.
-/

set_option autoImplicit false

namespace NovelScript

/-! ## Nodes -/

mutual

/-- The texts that the text of a node takes over as they are: strings, keywords, and variables with
their access marks. -/
def Node.contents : Node → List String
  | .binary _ _ left right => operandContents left ++ operandContents right
  | .unary _ operand => operandContents operand
  | .text s | .raw s | .keyword s => [s]
  | .reference place | .access _ place => [place.text]
  | .element _ none _ => []
  | .element _ (some base) indices => base.text :: indexContents indices
  | .byte _ | .short _ | .int _ | .long _ | .decimal _ | .nop => []

/-- The texts of an operand; none if it is missing. -/
def operandContents : Option Node → List String
  | none => []
  | some operand => operand.contents

/-- The texts of indices. -/
def indexContents : List Node → List String
  | [] => []
  | index :: rest => index.contents ++ indexContents rest

end

theorem BinaryOp.breaks_symbol (op : BinaryOp) : breaks op.symbol = 0 := by
  cases op with
  | arithmetic op | relational op | logical op => cases op <;> rfl

theorem UnaryOp.breaks_symbol (op : UnaryOp) : breaks op.symbol = 0 := by
  cases op <;> rfl

theorem breaks_minusIf (negated : Bool) : breaks (minusIf negated) = 0 := by
  cases negated <;> rfl

theorem breaks_bracketsIf (wanted : Bool) (text : String) :
    breaks (bracketsIf wanted text) = breaks text := by
  unfold bracketsIf
  split
  · rw [breaks_append, breaks_append, show breaks "(" = 0 from rfl, show breaks ")" = 0 from rfl]
    omega
  · rfl

/-- An operator between operands has the breaks of these. -/
theorem BinaryOp.breaks_between (op : BinaryOp) (left right : Option String) :
    breaks (op.between left right) = breaks (left.getD "") + breaks (right.getD "") := by
  have gap : breaks "?" = 0 := rfl
  have nothing : breaks "" = 0 := rfl
  cases left <;> cases right <;> simp [between, op.breaks_symbol, gap, nothing]

mutual

/-- The breaks in the text of a node are those of the texts it takes over. -/
theorem Node.breaks_source : ∀ node : Node, breaks node.source = allBreaks node.contents
  | .binary op negated left right => by
    have parts : breaks (op.between (operandText? left) (operandText? right)) =
        allBreaks (operandContents left ++ operandContents right) := by
      rw [op.breaks_between, breaks_operandText left, breaks_operandText right, allBreaks_append]
    simp only [Node.source, Node.contents]
    split
    next =>
      rw [breaks_append, breaks_append, parts, show breaks "-(" = 0 from rfl,
        show breaks ")" = 0 from rfl]
      omega
    next => exact parts
  | .unary op operand => by
    rw [Node.source, Node.contents, breaks_append, op.breaks_symbol, breaks_operandText operand,
      Nat.zero_add]
  | .text s => by
    rw [Node.source, Node.contents, breaks_append, breaks_append, show breaks "\"" = 0 from rfl,
      allBreaks_cons, allBreaks_nil]
    omega
  | .element negated (some base) indices => by
    simp only [Node.source, Node.contents, breaks_append, allBreaks_cons, breaks_minusIf,
      breaks_intercalate (show breaks "," = 0 from rfl), breaks_indexTexts indices,
      show breaks "(" = 0 from rfl, show breaks ")" = 0 from rfl]
    omega
  | .element negated none indices => by simp only [Node.source, Node.contents]; rfl
  | .raw s | .keyword s => by simp [Node.source, Node.contents]
  | .reference place => by simp [Node.source, Node.contents]
  | .access negated place => by simp [Node.source, Node.contents, breaks_minusIf]
  | .byte v | .short v | .int v | .long v => by
    simp only [Node.source, Node.contents, breaks_numeral (Source.numeral_wholeText _),
      allBreaks_nil]
  | .decimal x => by
    simp only [Node.source, Node.contents, breaks_numeral (Source.numeral_plain x), allBreaks_nil]
  | .nop => by simp only [Node.source, Node.contents]; rfl

/-- The same for an operand. -/
theorem breaks_operandText : ∀ operand : Option Node,
    breaks ((operandText? operand).getD "") = allBreaks (operandContents operand)
  | none => by simp only [operandText?, operandContents]; rfl
  | some operand => by
    rw [operandText?, operandContents, Option.getD_some, breaks_bracketsIf, operand.breaks_source]

/-- The same for indices. -/
theorem breaks_indexTexts : ∀ indices : List Node,
    allBreaks (indexTexts indices) = allBreaks (indexContents indices)
  | [] => by simp only [indexTexts, indexContents]
  | index :: rest => by
    rw [indexTexts, indexContents, allBreaks_cons, allBreaks_append, index.breaks_source,
      breaks_indexTexts rest]

end

/-! ## Expressions and commands -/

/-- The texts that the text of an expression takes over as they are: keyword and load operator, if
there is a keyword, and those of the root. -/
def Expression.contents (e : Expression) : List String :=
  match e.root with
  | none => []
  | some root =>
    match e.assignment.bind fun a => a.keyword?.map (·, a.loadOp) with
    | some (keyword, loadOp) => [keyword, loadOp] ++ root.contents
    | none => root.contents

theorem Expression.breaks_arrayMark (root : Node) : breaks (arrayMark root) = 0 := by
  unfold arrayMark
  split <;> rfl

/-- The breaks in the text of an expression are those of the texts it takes over. -/
theorem Expression.breaks_source (e : Expression) : breaks e.source = allBreaks e.contents := by
  cases has : e.root with
  | none => simp only [source, contents, has]; rfl
  | some root =>
    cases lead : e.assignment.bind fun a => a.keyword?.map (·, a.loadOp) with
    | none => simp only [source, contents, has, lead, root.breaks_source]
    | some words =>
      simp only [source, contents, has, lead, breaks_append, root.breaks_source, breaks_arrayMark,
        allBreaks_append, allBreaks_cons, allBreaks_nil]
      omega

namespace Command

/-- The texts that the lines of a command take over as they are: its labels, its name, and those of
its expressions. -/
def contents (c : Command) : List String :=
  c.labels ++ c.name :: c.expressions.flatMap fun e => e.expression.contents

theorem breaks_indentation (c : Command) : breaks c.indentation = 0 := by
  refine breaks_eq_zero_iff.mpr fun mem => ?_
  rw [indentation, String.toList_ofList] at mem
  exact absurd (List.eq_of_mem_replicate mem) (by decide)

/-- The breaks in the lines of a command are those of the texts they take over. -/
theorem breaks_lines (c : Command) : allBreaks c.lines = allBreaks c.contents := by
  have labels : ∀ names : List String, allBreaks (names.map ("#=" ++ ·)) = allBreaks names := by
    intro names
    induction names with
    | nil => rfl
    | cons name rest ih =>
      rw [List.map_cons, allBreaks_cons, allBreaks_cons, breaks_append, ih,
        show breaks "#=" = 0 from rfl, Nat.zero_add]
  have expressions : ∀ list : List ScriptExpression,
      allBreaks (list.map fun e => e.expression.source) =
        allBreaks (list.flatMap fun e => e.expression.contents) := by
    intro list
    induction list with
    | nil => rfl
    | cons e rest ih =>
      rw [List.map_cons, List.flatMap_cons, allBreaks_cons, allBreaks_append,
        e.expression.breaks_source, ih]
  simp only [lines, contents, text, allBreaks_append, allBreaks_cons, allBreaks_nil, labels,
    breaks_append, breaks_indentation, breaks_intercalate (show breaks " " = 0 from rfl),
    expressions, show breaks "[" = 0 from rfl, show breaks "]" = 0 from rfl]
  omega

/-- A command that is not printed in the last place. -/
theorem isBareEnd_iff {c : Command} :
    c.isBareEnd = true ↔ c.name = "END" ∧ c.expressions = [] ∧ c.labels = [] := by
  simp [isBareEnd, and_assoc]

end Command

/-! ## Scripts -/

namespace Script

/-- The texts that the text of a script takes over as they are. -/
def contents (s : Script) : List String := s.printed.flatMap Command.contents

/-- The lines that a script is written in. -/
def lines (s : Script) : List String := s.printed.flatMap Command.lines

/-- With commands to print, the text is the lines with breaks behind them. -/
theorem text_eq_joinLines {s : Script} (nonempty : s.printed ≠ []) :
    s.text = joinLines s.lines := by
  rw [text, if_neg (by simpa using nonempty), joinLines, lines, List.map_flatMap]

/-- The breaks in the lines of a script are those of the texts they take over. -/
theorem breaks_lines (s : Script) : allBreaks s.lines = allBreaks s.contents := by
  unfold lines contents
  induction s.printed with
  | nil => rfl
  | cons c rest ih =>
    rw [List.flatMap_cons, List.flatMap_cons, allBreaks_append, allBreaks_append, c.breaks_lines,
      ih]

/-- There is a line for each label and for each command. -/
theorem length_lines (s : Script) :
    s.lines.length = (s.printed.flatMap Command.labels).length + s.printed.length := by
  unfold lines
  induction s.printed with
  | nil => rfl
  | cons c rest ih =>
    rw [List.flatMap_cons, List.flatMap_cons, List.length_append, List.length_append, ih,
      List.length_cons, Command.lines, List.length_append, List.length_map, List.length_singleton]
    omega

/-- All commands are printed but a bare `END` in the last place. -/
theorem printed_concat {s : Script} {rest : List Command} {last : Command}
    (h : s.commands = rest ++ [last]) :
    s.printed = if last.isBareEnd then rest else s.commands := by
  rw [printed, h, List.getLast?_concat, List.dropLast_concat, Option.any_some]

/-- The text of a script without commands to print is told from every other. -/
theorem text_eq_emptyText_iff {s : Script} : s.text = emptyText ↔ s.printed = [] := by
  constructor
  · intro same
    cases commands : s.printed with
    | nil => rfl
    | cons c rest =>
      have nonempty : s.printed ≠ [] := by rw [commands]; exact List.cons_ne_nil c rest
      have written := congrArg breaks ((text_eq_joinLines nonempty).symm.trans same)
      rw [breaks_joinLines, length_lines, commands, List.length_cons,
        show breaks emptyText = 0 from rfl] at written
      omega
  · intro empty
    rw [text, empty]
    rfl

/-- All commands of a script are printed but a bare `END` in the last place, and where none is left
the text is a comment. Else its lines are those of the commands in order, a line for each label and
then one for the command itself, exactly if no text that is taken over as it is has a line break in
it; and there is one more for each such break. -/
theorem text_lines (s : Script) :
    (∀ rest last, s.commands = rest ++ [last] →
      (last.name = "END" ∧ last.expressions = [] ∧ last.labels = [] → s.printed = rest) ∧
      (¬ (last.name = "END" ∧ last.expressions = [] ∧ last.labels = []) →
        s.printed = s.commands)) ∧
    (s.commands = [] → s.printed = []) ∧
    (s.text = "//Empty file." ↔ s.printed = []) ∧
    (s.printed ≠ [] →
      (textLines s.text = (s.printed.flatMap fun c => c.labels.map (fun label => "#=" ++ label) ++
          [String.ofList (List.replicate (4 * c.nest) ' ') ++ (c.name ++ "[" ++
            String.intercalate " " (c.expressions.map fun e => e.expression.source) ++ "]")]) ↔
        ∀ text ∈ s.contents, '\n' ∉ text.toList) ∧
      (textLines s.text).length =
        (s.printed.flatMap Command.labels).length + s.printed.length + allBreaks s.contents) := by
  refine ⟨fun rest last split => ?_, fun empty => ?_, text_eq_emptyText_iff,
    fun nonempty => ⟨?_, ?_⟩⟩
  · rw [printed_concat split, ← Command.isBareEnd_iff]
    exact ⟨fun bare => if_pos bare, fun other => if_neg other⟩
  · rw [printed, empty]
    rfl
  · rw [text_eq_joinLines nonempty, ← allBreaks_eq_zero_iff, ← breaks_lines]
    exact textLines_eq_iff
  · rw [text_eq_joinLines nonempty, length_textLines, length_lines, breaks_lines]

/-- A string with a line break in it: the one command of the script, which has no label, reads as
two lines. -/
theorem text_lines_broken :
    let wait : CompiledCommand :=
      ⟨"WAIT", 0, 0, 0, [⟨0, 0, 0, 0, none, none, [0x4D, 3, 0, 0x61, 0x0A, 0x62]⟩]⟩
    (CompiledScript.reconstruct (.ofTable .empty .utf8) ⟨1, "a.yst", [], [wait]⟩).map (fun made =>
        (made.printed.map fun c => (c.labels, c.name), textLines made.text)) =
      .ok ([([], "WAIT")], ["WAIT[\"a", "b\"]"]) := by
  with_unfolding_all rfl

end Script

end NovelScript
