import NovelScript.Proofs.Script.Alone
import NovelScript.Proofs.Script.Lines

/-!
# Labels — every label comes out at its command

A script says of each label which command it points at, and lists the labels in any order. Every
command of the reconstructed script carries its own labels, in the order in which they are listed;
so among all commands each label that points at one of them is carried once. Labels that point past
the last command are carried by none.

In the text the labels of a command stand on lines right before its own. That holds of every command
with labels, also of an `END` in the last place: only one without labels is not printed.

## What is proved

`labels_of_reconstruct`: the labels of the commands. `perm_labelsAt`: all of them together are
those that point at a command. `reconstruct_congr`: no others have a part in the script.
`text_at`: the lines of a printed command in the text. `labels_kept`: all of this for a script that
succeeds.
-/

set_option autoImplicit false

namespace NovelScript

namespace CompiledScript

variable {script : CompiledScript} {decoder : Decoder} {made : Script}

/-- The commands of a script carry the labels that point at them. -/
theorem labels_of_reconstruct (h : script.reconstruct decoder = .ok made) :
    made.commands.length = script.commands.length ∧
      ∀ (i : Nat) (command : Command), made.commands[i]? = some command →
        command.labels = script.labelsAt i := by
  rw [reconstruct_eq_traverse] at h
  obtain ⟨commands, found, rfl⟩ := exists_of_map_eq_ok h
  obtain ⟨length, each⟩ := getElem?_of_traverse found
  refine ⟨length, fun i command listed => ?_⟩
  have within : i < script.commands.length := length ▸ (List.getElem?_eq_some_iff.mp listed).1
  obtain ⟨command', listed', depth, result⟩ := each i _ (List.getElem?_eq_getElem within)
  obtain rfl := Option.some.inj (listed.symm.trans listed')
  obtain ⟨expressions, -, rfl⟩ := exists_of_map_eq_ok result
  rw [Nat.zero_add]

/-- The labels that point at the first commands, command by command. -/
theorem perm_labelsAt (script : CompiledScript) (n : Nat) :
    ((List.range n).flatMap script.labelsAt).Perm
      ((script.labels.filter fun l => l.command < n).map Label.name) := by
  induction n with
  | zero => simp
  | succ n ih =>
    have split := List.filter_append_perm (fun l : Label => l.command < n)
      (script.labels.filter fun l => l.command < n + 1)
    have low : ∀ l ∈ script.labels, (decide (l.command < n) && decide (l.command < n + 1)) =
        decide (l.command < n) := by
      intro l _
      rw [Bool.and_eq_left_iff_imp]
      simp only [decide_eq_true_eq]
      omega
    have here : ∀ l ∈ script.labels, (!decide (l.command < n) && decide (l.command < n + 1)) =
        (l.command == n) := by
      intro l _
      rw [Bool.eq_iff_iff]
      simp only [Bool.and_eq_true, Bool.not_eq_true', decide_eq_true_eq, decide_eq_false_iff_not,
        beq_iff_eq]
      omega
    rw [List.filter_filter, List.filter_filter, List.filter_congr low,
      List.filter_congr here] at split
    rw [List.range_succ, List.flatMap_append, List.flatMap_singleton]
    refine (ih.append_right _).trans ?_
    rw [labelsAt, ← List.map_append]
    exact split.map Label.name

/-- A script is made of its commands and the labels that point at them. -/
theorem reconstruct_congr {other : CompiledScript} (id : other.scriptId = script.scriptId)
    (source : other.source = script.source) (commands : other.commands = script.commands)
    (labels : ∀ i < script.commands.length, other.labelsAt i = script.labelsAt i) :
    other.reconstruct decoder = script.reconstruct decoder := by
  rw [reconstruct_eq_traverse, reconstruct_eq_traverse, id, source, commands]
  refine congrArg (Except.map _) (traverse_congr fun i within depth c => ?_)
  rw [commandAt, commandAt, expressionsFrom_eq_traverse, expressionsFrom_eq_traverse, id,
    Nat.zero_add, labels i within]

end CompiledScript

/-! ## The text -/

namespace Script

variable {s : Script}

/-- The printed commands are the first ones. -/
theorem printed_eq_or (s : Script) :
    s.printed = s.commands ∨
      ∃ last : Command, s.commands = s.printed ++ [last] ∧ last.isBareEnd = true := by
  rcases List.eq_nil_or_concat s.commands with none | ⟨rest, last, split⟩
  · refine .inl ?_
    rw [printed, none]
    rfl
  · rw [List.concat_eq_append] at split
    rw [printed_concat split]
    split
    next bare => exact .inr ⟨last, split, bare⟩
    next => exact .inl rfl

/-- A command with labels is printed, and so are the ones before it. -/
theorem printed_of_labels {i : Nat} {command : Command} (listed : s.commands[i]? = some command)
    (labelled : command.labels ≠ []) :
    s.printed[i]? = some command ∧ s.printed.take i = s.commands.take i := by
  rcases s.printed_eq_or with all | ⟨last, split, bare⟩
  · rw [all]
    exact ⟨listed, rfl⟩
  · rw [split] at listed ⊢
    by_cases within : i < s.printed.length
    · rw [List.getElem?_append_left within] at listed
      exact ⟨listed, (List.take_append_of_le_length (Nat.le_of_lt within)).symm⟩
    · -- The command in the last place is bare, and so without labels.
      rw [List.getElem?_append_right (Nat.le_of_not_lt within)] at listed
      obtain rfl := List.mem_singleton.mp (List.mem_of_getElem? listed)
      exact absurd (Command.isBareEnd_iff.mp bare).2.2 labelled

/-- In the text, the lines of a printed command stand behind those of the commands before it. -/
theorem text_at {i : Nat} {command : Command} (listed : s.printed[i]? = some command) :
    s.text = joinLines ((s.printed.take i).flatMap Command.lines) ++ joinLines command.lines ++
      joinLines ((s.printed.drop (i + 1)).flatMap Command.lines) := by
  obtain ⟨within, rfl⟩ := List.getElem?_eq_some_iff.mp listed
  have nonempty : s.printed ≠ [] := List.ne_nil_of_length_pos (Nat.zero_lt_of_lt within)
  have parts : s.lines = (s.printed.take i).flatMap Command.lines ++
      (s.printed[i].lines ++ (s.printed.drop (i + 1)).flatMap Command.lines) := by
    rw [← List.flatMap_cons, ← List.drop_eq_getElem_cons within, ← List.flatMap_append,
      List.take_append_drop]
    rfl
  rw [text_eq_joinLines nonempty, parts, joinLines_append, joinLines_append, String.append_assoc]

end Script

/-- A script that succeeds has a command for each compiled one, and each carries the labels that
point at it in the order in which they are listed. All commands together carry the labels that point
at one of them, each once, and no other label has a part in the script. In the text, the labels of
every command that has some stand on lines between those of the commands before it and its own;
for all commands are printed but, in the last place, an `END` without expressions and labels. -/
theorem CompiledScript.labels_kept {script : CompiledScript} {decoder : Decoder} {made : Script}
    (h : script.reconstruct decoder = .ok made) :
    made.commands.length = script.commands.length ∧
    (∀ (i : Nat) (command : Command), made.commands[i]? = some command → command.labels =
      (script.labels.filter fun l => l.command == i).map Label.name) ∧
    (made.commands.flatMap Command.labels).Perm
      ((script.labels.filter fun l => l.command < script.commands.length).map Label.name) ∧
    CompiledScript.reconstruct decoder
      { script with labels := script.labels.filter fun l => l.command < script.commands.length } =
        .ok made ∧
    (∀ (i : Nat) (command : Command), made.commands[i]? = some command → command.labels ≠ [] →
      made.text = joinLines ((made.commands.take i).flatMap Command.lines) ++
        joinLines (command.labels.map ("#=" ++ ·)) ++
        (command.indentation ++ command.text ++ "\n") ++
        joinLines ((made.printed.drop (i + 1)).flatMap Command.lines)) ∧
    (made.printed = made.commands ∨
      ∃ last : Command, made.commands = made.printed ++ [last] ∧
        last.name = "END" ∧ last.expressions = [] ∧ last.labels = []) := by
  obtain ⟨length, labels⟩ := labels_of_reconstruct h
  refine ⟨length, labels, ?_, ?_, fun i command listed labelled => ?_, ?_⟩
  · have all : made.commands.map Command.labels =
        (List.range script.commands.length).map script.labelsAt := by
      refine List.ext_getElem (by simp [length]) fun i within _ => ?_
      rw [List.getElem_map, List.getElem_map, List.getElem_range]
      rw [List.length_map] at within
      exact labels i _ (List.getElem?_eq_getElem within)
    rw [List.flatMap_def, all, ← List.flatMap_def]
    exact script.perm_labelsAt _
  · rw [← h]
    refine reconstruct_congr rfl rfl rfl fun i within => ?_
    rw [labelsAt, labelsAt, List.filter_filter]
    refine congrArg (List.map Label.name) (List.filter_congr fun l _ => ?_)
    rw [Bool.and_eq_left_iff_imp, beq_iff_eq, decide_eq_true_eq]
    rintro rfl
    exact within
  · obtain ⟨printed, before⟩ := Script.printed_of_labels listed labelled
    rw [Script.text_at printed, before, Command.lines, joinLines_append, joinLines_singleton,
      ← String.append_assoc]
  · simp only [← Command.isBareEnd_iff]
    exact made.printed_eq_or

/-- Labels in no order: two with one name at one command, one past the end, and one at the `END` in
the last place, which is printed because of it. -/
theorem CompiledScript.labels_kept_end :
    let command (name : String) : CompiledCommand := ⟨name, 0, 0, 0, []⟩
    let labels : List Label :=
      [⟨"b", 1⟩, ⟨"a", 0⟩, ⟨"b", 1⟩, ⟨"past", 3⟩, ⟨"stop", 2⟩, ⟨"c", 0⟩]
    ∃ made, CompiledScript.reconstruct (.ofTable .empty .utf8)
        ⟨0, "a", labels, ["WAIT", "WAIT", "END"].map command⟩ = .ok made ∧
      made.commands.map Command.labels = [["a", "c"], ["b", "b"], ["stop"]] ∧
      (made.commands.flatMap Command.labels).Perm ["b", "a", "b", "stop", "c"] ∧
      made.text = "#=a\n#=c\nWAIT[]\n#=b\n#=b\nWAIT[]\n#=stop\nEND[]\n" := by
  intro command labels
  obtain ⟨made, done, carried, text⟩ : ∃ made, CompiledScript.reconstruct (.ofTable .empty .utf8)
      ⟨0, "a", labels, ["WAIT", "WAIT", "END"].map command⟩ = .ok made ∧
      made.commands.map Command.labels = [["a", "c"], ["b", "b"], ["stop"]] ∧
      made.text = "#=a\n#=c\nWAIT[]\n#=b\n#=b\nWAIT[]\n#=stop\nEND[]\n" :=
    ⟨_, rfl, by with_unfolding_all rfl, by with_unfolding_all rfl⟩
  obtain ⟨-, -, all, -⟩ := labels_kept done
  exact ⟨made, done, carried, all, text⟩

end NovelScript
