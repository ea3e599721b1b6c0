import NovelScript.Script.Compiled

/-!
# Labels by command — names that wait for the command they point at

The labels of a script come in no particular order. Before the commands are gone through, the names
are put together by the command that they point at, each behind those that came before it; a command
then takes the names that wait for it out of the table.

## What is proved

`names_add`, `names_without`: a name is added and names are taken out under one command and nowhere
else. `names_ofList`: what waits for a command are the names of its labels, in their order.
-/

set_option autoImplicit false

namespace NovelScript

/-- Names of labels, under the numbers of the commands that they wait for. -/
abbrev LabelTable := List (Nat × List String)

namespace LabelTable

/-- The names that wait for a command. -/
def names (table : LabelTable) (command : Nat) : List String :=
  (table.lookup command).getD []

/-- The table with the name of a label behind the others of its command. -/
def add (label : Label) : LabelTable → LabelTable
  | [] => [(label.command, [label.name])]
  | (command, names) :: rest =>
    if command = label.command then (command, names ++ [label.name]) :: rest
    else (command, names) :: add label rest

/-- The table without the names that wait for a command. -/
def without (table : LabelTable) (command : Nat) : LabelTable :=
  table.filter fun entry => entry.1 != command

/-- The table of labels that are added one after the other. -/
def ofList (labels : List Label) : LabelTable :=
  labels.foldl (fun table label => table.add label) []

@[simp] theorem names_nil (command : Nat) : names [] command = [] := rfl

@[simp] theorem names_cons (first : Nat) (found : List String) (rest : LabelTable)
    (command : Nat) :
    names ((first, found) :: rest) command =
      if command = first then found else names rest command := by
  unfold names
  by_cases same : command = first
  · subst same
    rw [List.lookup_cons_self, if_pos rfl]
    rfl
  · rw [List.lookup_cons, beq_eq_false_iff_ne.mpr same, if_neg same]

/-- A name is added under its own command and nowhere else. -/
theorem names_add (table : LabelTable) (label : Label) (command : Nat) :
    (table.add label).names command =
      if command = label.command then table.names command ++ [label.name]
      else table.names command := by
  induction table with
  | nil => simp [add]
  | cons entry rest ih =>
    obtain ⟨first, found⟩ := entry
    unfold add
    split
    next own =>
      subst own
      rw [names_cons, names_cons]
      split <;> rfl
    next other =>
      rw [names_cons, names_cons, ih]
      split
      next asked => rw [if_neg (asked ▸ other)]
      next => rfl

/-- The names of one command are taken out and no others. -/
theorem names_without (table : LabelTable) (taken command : Nat) :
    (table.without taken).names command = if command = taken then [] else table.names command := by
  unfold without
  induction table with
  | nil => simp
  | cons entry rest ih =>
    obtain ⟨first, found⟩ := entry
    by_cases own : first = taken
    · rw [List.filter_cons_of_neg (by simpa using own), ih, names_cons, own]
      split <;> rfl
    · rw [List.filter_cons_of_pos (by simpa using own), names_cons, names_cons, ih]
      split
      next asked => rw [if_neg (asked ▸ own)]
      next => rfl

/-- What waits for a command are the names of its labels, in their order. -/
theorem names_ofList (labels : List Label) (command : Nat) :
    (ofList labels).names command =
      (labels.filter fun l => l.command == command).map Label.name := by
  have put : ∀ (labels : List Label) (table : LabelTable),
      (labels.foldl (fun table label => table.add label) table).names command =
        table.names command ++ (labels.filter fun l => l.command == command).map Label.name := by
    intro labels
    induction labels with
    | nil => simp
    | cons label rest ih =>
      intro table
      rw [List.foldl_cons, ih, names_add]
      by_cases own : command = label.command
      · rw [if_pos own, List.filter_cons_of_pos (by simpa using own.symm), List.map_cons,
          List.append_assoc]
        rfl
      · rw [if_neg own, List.filter_cons_of_neg (by simpa using Ne.symm own)]
  exact put labels []

end LabelTable

end NovelScript
