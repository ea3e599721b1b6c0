import Mathlib.Data.List.Induction
import NovelScript.Proofs.Results
import NovelScript.Script.Basic

/-!
# Indentation — blocks and the depths they stand at

Where the commands of a list open and close blocks in pairs, the list is balanced: it is built from
plain commands, conditions and loops, one behind the other, whose bodies are balanced themselves
(`Balanced`). What is asked of the indentation is said on that structure. The commands that open,
divide and close one block stand at one depth, and what is in the block stands one deeper
(`Balanced.depths`).

A script need not be balanced. It may close what was never opened, which has no effect, so the depth
before a command is not how many more blocks were opened than closed. It is that count from the
place where it is the largest: from there on no closing command was one too many.

## What is proved

`Balanced.standAt`: a balanced list stands as it should at any depth, and leaves that depth.
`rise_le_depthAfter` and `exists_rise_eq`: the depth behind any commands is the largest surplus of
opening commands at their end. `nest_reconstruct`: both, of the commands of a reconstructed script.
-/

set_option autoImplicit false

namespace NovelScript

/-- The names of the commands that make blocks. -/
def blockWords : List String := ["IF", "ELSE", "IFEND", "LOOP", "LOOPEND"]

mutual

/-- A balanced list of commands, as it is built up. -/
inductive Balanced where
  | empty
  | plain (name : String) (free : name ∉ blockWords)
  | condition (body : Balanced) (others : Branches)
  | loop (body : Balanced)
  | append (first second : Balanced)

/-- The further branches of a condition. -/
inductive Branches where
  | done
  | otherwise (body : Balanced) (rest : Branches)

end

mutual

/-- The names of the commands of a balanced list. -/
def Balanced.names : Balanced → List String
  | .empty => []
  | .plain name _ => [name]
  | .condition body others => "IF" :: body.names ++ others.names ++ ["IFEND"]
  | .loop body => "LOOP" :: body.names ++ ["LOOPEND"]
  | .append first second => first.names ++ second.names

/-- The names of the commands of further branches, each behind an `ELSE`. -/
def Branches.names : Branches → List String
  | .done => []
  | .otherwise body rest => "ELSE" :: body.names ++ rest.names

end

mutual

/-- The depths at which the commands of a balanced list belong: those outside of all its blocks at
`depth`, together with what opens, divides and closes these, and each body one deeper. -/
def Balanced.depths (depth : Nat) : Balanced → List Nat
  | .empty => []
  | .plain _ _ => [depth]
  | .condition body others => depth :: body.depths (depth + 1) ++ others.depths depth ++ [depth]
  | .loop body => depth :: body.depths (depth + 1) ++ [depth]
  | .append first second => first.depths depth ++ second.depths depth

/-- The depths of further branches: each `ELSE` at `depth`, and the body behind it one deeper. -/
def Branches.depths (depth : Nat) : Branches → List Nat
  | .done => []
  | .otherwise body rest => depth :: body.depths (depth + 1) ++ rest.depths depth

end

/-! ## Balanced lists -/

/-- The depth behind commands is the one behind the last of them. -/
theorem depthAfter_append (depth : Nat) (first second : List String) :
    depthAfter depth (first ++ second) = depthAfter (depthAfter depth first) second :=
  List.foldl_append

/-- Names that make no blocks are of plain commands. -/
theorem ofName_of_free {name : String} (free : name ∉ blockWords) :
    BlockRole.ofName name = .plain := by
  simp only [blockWords, List.mem_cons, List.not_mem_nil, or_false, not_or] at free
  obtain ⟨notIf, notElse, notIfEnd, notLoop, notLoopEnd⟩ := free
  simp only [BlockRole.ofName, notIf, notElse, notIfEnd, notLoop, notLoopEnd, or_self, if_false]

/-- Commands stand as they should, in front of any others, which go on at the depth that these
leave. -/
def StandAt (depth : Nat) (names : List String) (depths : List Nat) (left : Nat) : Prop :=
  nests depth names = depths ∧ depthAfter depth names = left

/-- Commands that follow others stand where those leave off. -/
theorem StandAt.append {depth middle left : Nat} {first second : List String}
    {depths more : List Nat} (front : StandAt depth first depths middle)
    (back : StandAt middle second more left) :
    StandAt depth (first ++ second) (depths ++ more) left := by
  constructor
  · rw [nests_append, front.1, front.2, back.1]
  · rw [depthAfter_append, front.2, back.2]

/-- One command stands at its place and leaves the depth behind it. -/
theorem standAt_singleton (depth : Nat) (name : String) :
    StandAt depth [name] [(BlockRole.ofName name).place depth]
      ((BlockRole.ofName name).next depth) :=
  ⟨rfl, rfl⟩

mutual

/-- A balanced list stands as it should, and leaves the depth that it began at. -/
theorem Balanced.standAt (depth : Nat) : ∀ blocks : Balanced,
    StandAt depth blocks.names (blocks.depths depth) depth
  | .empty => ⟨rfl, rfl⟩
  | .plain name free => by
    have alone := standAt_singleton depth name
    rw [ofName_of_free free] at alone
    exact alone
  | .condition body others => by
    have opened := (standAt_singleton depth "IF").append (body.standAt (depth + 1))
    exact (opened.append (others.standAt depth)).append (standAt_singleton (depth + 1) "IFEND")
  | .loop body =>
    ((standAt_singleton depth "LOOP").append (body.standAt (depth + 1))).append
      (standAt_singleton (depth + 1) "LOOPEND")
  | .append first second => (first.standAt depth).append (second.standAt depth)

/-- The further branches of a condition do, inside of it. -/
theorem Branches.standAt (depth : Nat) : ∀ branches : Branches,
    StandAt (depth + 1) branches.names (branches.depths depth) (depth + 1)
  | .done => ⟨rfl, rfl⟩
  | .otherwise body rest =>
    ((standAt_singleton (depth + 1) "ELSE").append (body.standAt (depth + 1))).append
      (rest.standAt depth)

end

/-! ## Lists that need not be balanced -/

/-- How many more blocks commands open than they close. -/
def rise (names : List String) : Int :=
  (names.countP (· ∈ ["IF", "LOOP"]) : Int) - names.countP (· ∈ ["IFEND", "LOOPEND"])

theorem rise_append (first second : List String) :
    rise (first ++ second) = rise first + rise second := by
  simp only [rise, List.countP_append]
  omega

/-- A command changes the depth by what it opens or closes, but not below zero. -/
theorem next_eq_max (depth : Nat) (name : String) :
    ((BlockRole.ofName name).next depth : Int) = max 0 (depth + rise [name]) := by
  unfold BlockRole.ofName
  split_ifs with opening dividing closing
  · have change : rise [name] = 1 := by rcases opening with rfl | rfl <;> rfl
    simp only [change, BlockRole.next]
    omega
  · have change : rise [name] = 0 := by subst dividing; rfl
    simp only [change, BlockRole.next]
    omega
  · have change : rise [name] = -1 := by rcases closing with rfl | rfl <;> rfl
    simp only [change, BlockRole.next]
    omega
  · have change : rise [name] = 0 := by
      simp only [not_or] at opening closing
      simp [rise, opening, closing]
    simp only [change, BlockRole.next]
    omega

/-- Behind one more command the depth is changed by it, but not below zero. -/
theorem depthAfter_concat (names : List String) (name : String) :
    (depthAfter 0 (names ++ [name]) : Int) = max 0 (depthAfter 0 names + rise [name]) := by
  rw [depthAfter_append]
  exact next_eq_max _ name

/-- From no place on do commands rise by more than the depth behind them. -/
theorem rise_le_depthAfter (names : List String) (k : Nat) :
    rise (names.drop k) ≤ depthAfter 0 names := by
  -- On the last command: what is behind `k` ends in it, or is nothing.
  induction names using List.reverseRecOn with
  | nil => simp [rise]
  | append_singleton names name ih =>
    rw [depthAfter_concat]
    rcases Nat.lt_or_ge names.length k with past | within
    · rw [List.drop_eq_nil_of_le (by simp; omega)]
      exact Int.le_max_left 0 _
    · rw [List.drop_append_of_le_length within, rise_append]
      omega

/-- From some place on commands rise by the depth behind them. -/
theorem exists_rise_eq (names : List String) :
    ∃ k ≤ names.length, rise (names.drop k) = depthAfter 0 names := by
  induction names using List.reverseRecOn with
  | nil => exact ⟨0, Nat.le_refl 0, rfl⟩
  | append_singleton names name ih =>
    obtain ⟨k, within, best⟩ := ih
    rw [depthAfter_concat]
    rcases Int.le_total 0 (depthAfter 0 names + rise [name]) with more | less
    · refine ⟨k, by simp; omega, ?_⟩
      rw [List.drop_append_of_le_length within, rise_append, best, Int.max_eq_right more]
    · refine ⟨names.length + 1, by simp, ?_⟩
      rw [List.drop_eq_nil_of_le (by simp), Int.max_eq_left less]
      rfl

/-! ## Scripts -/

variable {script : CompiledScript} {decoder : Decoder}

/-- The commands of a script stand at the depths that their names give them. -/
theorem nests_of_commandsFrom {index depth : Nat} {waiting : LabelTable}
    {commands : List CompiledCommand} {made : List Command}
    (h : script.commandsFrom decoder index depth waiting commands = .ok made) :
    made.map Command.nest = nests depth (commands.map CompiledCommand.name) := by
  induction commands generalizing index depth waiting made with
  | nil =>
    cases h
    rfl
  | cons c rest ih =>
    rw [CompiledScript.commandsFrom] at h
    split at h
    next => cases h
    next expressions _ =>
      obtain ⟨others, made', rfl⟩ := exists_of_map_eq_ok h
      exact congrArg (_ :: ·) (ih made')

theorem nests_of_reconstruct {made : Script} (h : script.reconstruct decoder = .ok made) :
    made.commands.map Command.nest = nests 0 (script.commands.map CompiledCommand.name) := by
  obtain ⟨commands, found, rfl⟩ := exists_of_map_eq_ok h
  exact nests_of_commandsFrom found

/-- Where a command stands depends on its name and on the depth that the ones before it leave. -/
theorem getElem?_nests (depth : Nat) (names : List String) (i : Nat) :
    (nests depth names)[i]? =
      names[i]?.map fun name =>
        (BlockRole.ofName name).place (depthAfter depth (names.take i)) := by
  induction names generalizing depth i with
  | nil => simp [nests]
  | cons name rest ih =>
    cases i with
    | zero => rfl
    | succ i => exact ih _ i

/-- In a reconstructed script, commands that are balanced stand as their blocks say, at the depth
that the commands before them leave. They leave that depth too, so the commands around them stand
where they stand in every script that lacks the balanced ones. Balanced or not, a command stands
where its name has it stand at the depth before it; and the depth behind any commands is the largest
number by which they open more blocks than they close from some place on. -/
theorem nest_reconstruct {made : Script} (h : script.reconstruct decoder = .ok made) :
    (∀ (before inside after : List CompiledCommand) (blocks : Balanced),
      script.commands = before ++ inside ++ after →
      inside.map CompiledCommand.name = blocks.names →
      let front := before.map CompiledCommand.name
      let back := after.map CompiledCommand.name
      let depth := depthAfter 0 front
      made.commands.map Command.nest =
          nests 0 front ++ blocks.depths depth ++ nests depth back ∧
        depthAfter 0 (front ++ blocks.names) = depth ∧
        ∀ (other : CompiledScript) (decoder' : Decoder) (made' : Script),
          other.commands = before ++ after → other.reconstruct decoder' = .ok made' →
            made'.commands.map Command.nest = nests 0 front ++ nests depth back) ∧
    (∀ (i : Nat) c, script.commands[i]? = some c →
      ∃ command : Command, made.commands[i]? = some command ∧
        command.nest = (BlockRole.ofName c.name).place
          (depthAfter 0 ((script.commands.take i).map CompiledCommand.name))) ∧
    ∀ (commands : List CompiledCommand) (i : Nat),
      let names := (commands.take i).map CompiledCommand.name
      (∀ k ≤ i, rise (names.drop k) ≤ depthAfter 0 names) ∧
        ∃ k ≤ i, rise (names.drop k) = depthAfter 0 names := by
  have stand := nests_of_reconstruct h
  refine ⟨fun before inside after blocks split named => ?_, fun i c found => ?_,
    fun commands i => ⟨fun k _ => rise_le_depthAfter _ k, ?_⟩⟩
  · intro front back depth
    obtain ⟨blocks_stand, level⟩ := blocks.standAt depth
    refine ⟨?_, by rw [depthAfter_append]; exact level, fun other decoder' made' split' h' => ?_⟩
    · rw [stand, split, List.map_append, List.map_append, named, nests_append, nests_append,
        depthAfter_append, blocks_stand, level]
    · rw [nests_of_reconstruct h', split', List.map_append, nests_append]
  · have place := congrArg (·[i]?) stand
    rw [List.getElem?_map, getElem?_nests, List.getElem?_map, found] at place
    obtain ⟨command, listed, nest⟩ := Option.map_eq_some_iff.mp place
    exact ⟨command, listed, by rw [nest, List.map_take]⟩
  · obtain ⟨k, within, best⟩ := exists_rise_eq ((commands.take i).map CompiledCommand.name)
    rw [List.length_map, List.length_take] at within
    exact ⟨k, Nat.le_trans within (Nat.min_le_left ..), best⟩

/-- A loop that was never opened is closed and a condition opened; in that condition stand another
one, with a loop in its second branch, and then an `ELSE` and more closing commands than are due. -/
theorem nest_reconstruct_stray :
    let command (name : String) : CompiledCommand := ⟨name, 0, 0, 0, []⟩
    let before := ["LOOPEND", "IF"].map command
    let inside := ["IF", "WAIT", "ELSE", "LOOP", "WAIT", "LOOPEND", "IFEND"].map command
    let after := ["ELSE", "IFEND", "IFEND", "WAIT"].map command
    ∃ made, CompiledScript.reconstruct (.ofTable .empty .utf8)
        ⟨0, "a", [], before ++ inside ++ after⟩ = .ok made ∧
      made.commands.map Command.nest = [0, 0] ++ [1, 2, 1, 2, 3, 2, 1] ++ [0, 0, 0, 0] := by
  intro command before inside after
  let wait : Balanced := .plain "WAIT" (by decide)
  let blocks : Balanced := .condition wait (.otherwise (.loop wait) .done)
  obtain ⟨made, done⟩ : ∃ made, CompiledScript.reconstruct (.ofTable .empty .utf8)
      ⟨0, "a", [], before ++ inside ++ after⟩ = .ok made := ⟨_, rfl⟩
  obtain ⟨stand, -, -⟩ := (nest_reconstruct done).1 before inside after blocks rfl rfl
  exact ⟨made, done, stand⟩

end NovelScript
