/-!
# Nesting — how deep a command is indented

Blocks are opened and closed by commands: a condition by `IF` and `IFEND`, a loop by `LOOP` and
`LOOPEND`; `ELSE` divides a condition. The depth grows behind an opening command and shrinks at a
closing one, so that both stand at the depth around their block; a dividing command stands there too
and changes nothing. The depth stops at zero, so a closing command too many does no harm.

What a command does to the depth is all in its name (`BlockRole.ofName`).
-/

set_option autoImplicit false

namespace NovelScript

/-- What a command does to the depth. -/
inductive BlockRole where
  | opening
  | dividing
  | closing
  | plain
  deriving DecidableEq, Repr, Inhabited

namespace BlockRole

/-- The role of a command by its name. -/
def ofName (name : String) : BlockRole :=
  if name = "IF" ∨ name = "LOOP" then .opening
  else if name = "ELSE" then .dividing
  else if name = "IFEND" ∨ name = "LOOPEND" then .closing
  else .plain

/-- The depth that a command stands at, given the depth before it. -/
def place (depth : Nat) : BlockRole → Nat
  | .opening => depth
  | .dividing => depth - 1
  | .closing => depth - 1
  | .plain => depth

/-- The depth after a command, given the depth before it. -/
def next (depth : Nat) : BlockRole → Nat
  | .opening => depth + 1
  | .dividing => depth
  | .closing => depth - 1
  | .plain => depth

end BlockRole

/-- The depth after commands. -/
def depthAfter (depth : Nat) (names : List String) : Nat :=
  names.foldl (fun depth name => (BlockRole.ofName name).next depth) depth

/-- The depths that commands stand at. -/
def nests : (depth : Nat) → List String → List Nat
  | _, [] => []
  | depth, name :: rest =>
    (BlockRole.ofName name).place depth :: nests ((BlockRole.ofName name).next depth) rest

/-- The depths of commands that follow others start where those end. -/
theorem nests_append (depth : Nat) (first second : List String) :
    nests depth (first ++ second) =
      nests depth first ++ nests (depthAfter depth first) second := by
  induction first generalizing depth with
  | nil => rfl
  | cons name rest ih => simp [nests, ih, depthAfter]

end NovelScript
