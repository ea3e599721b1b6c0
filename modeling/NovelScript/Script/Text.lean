import NovelScript.Script.Basic

/-!
# The text of a script — one command a line

A command is its name and, in square brackets, its expressions with spaces between them. It stands
on a line of its own, four spaces deeper for every block around it, behind one line for each of its
labels. Every compiled script ends in a bare `END[]`, which is not printed; where nothing is left, a
comment says so, without a line break.
-/

set_option autoImplicit false

namespace NovelScript

/-- The text of a command. -/
def Command.text (c : Command) : String :=
  c.name ++ "[" ++
    String.intercalate " " (c.expressions.map fun e => e.expression.source) ++ "]"

/-- The spaces before a command. -/
def Command.indentation (c : Command) : String := String.ofList (List.replicate (4 * c.nest) ' ')

/-- The lines of a command: its labels, then itself. -/
def Command.lines (c : Command) : List String :=
  c.labels.map ("#=" ++ ·) ++ [c.indentation ++ c.text]

/-- Whether a command is an `END` with nothing to print. -/
def Command.isBareEnd (c : Command) : Bool :=
  c.name == "END" && c.expressions.isEmpty && c.labels.isEmpty

namespace Script

/-- The commands that are printed: all but a bare `END` in the last place. -/
def printed (s : Script) : List Command :=
  if s.commands.getLast?.any Command.isBareEnd then s.commands.dropLast else s.commands

/-- The text of a script without commands to print. -/
def emptyText : String := "//Empty file."

/-- The text of a script. -/
def text (s : Script) : String :=
  if s.printed.isEmpty then emptyText
  else String.join (s.printed.flatMap fun c => c.lines.map (· ++ "\n"))

end Script

end NovelScript
