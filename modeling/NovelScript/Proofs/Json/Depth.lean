import NovelScript.Proofs.Json.Yields

/-!
# Depth — how far the containers of a value stand inside one another

The room that a reader is given bounds how deep the values nest that it reads. Of the bounds of free
values it is the only one that depends on where a value stands, so a value that is bounded anywhere
(`Regular`) is bounded wherever there is room for its depth.

## What is proved

`Readable.depth_le` and `Readable.of_depth_le`: a readable value is readable in a room exactly if it
nests no deeper than that. `depth_nested`: no bound holds of all values.
-/

set_option autoImplicit false

namespace NovelScript.Json

mutual

/-- The number of containers that the deepest part of a value stands in, itself included. -/
def depth : Json → Nat
  | .array items => itemsDepth items + 1
  | .object members => membersDepth members + 1
  | .null | .bool _ | .int _ | .decimal _ | .string _ => 0

/-- The depth of the deepest item. -/
def itemsDepth : List Json → Nat
  | [] => 0
  | item :: rest => max item.depth (itemsDepth rest)

/-- The depth of the deepest member. -/
def membersDepth : List (String × Json) → Nat
  | [] => 0
  | (_, value) :: rest => max value.depth (membersDepth rest)

end

theorem itemsDepth_le_iff {items : List Json} {bound : Nat} :
    itemsDepth items ≤ bound ↔ ∀ item ∈ items, item.depth ≤ bound := by
  induction items with
  | nil => simp [itemsDepth]
  | cons item rest ih => rw [itemsDepth, Nat.max_le, ih, List.forall_mem_cons]

theorem membersDepth_le_iff {members : List (String × Json)} {bound : Nat} :
    membersDepth members ≤ bound ↔ ∀ member ∈ members, member.2.depth ≤ bound := by
  induction members with
  | nil => simp [membersDepth]
  | cons member rest ih => rw [membersDepth, Nat.max_le, ih, List.forall_mem_cons]

namespace Readable

variable {P : Binary64 → Prop} {room room' : Nat} {value : Json}

/-- A readable value nests no deeper than there is room. -/
theorem depth_le (readable : Readable P room value) : value.depth ≤ room := by
  induction readable with
  | null | bool | int | decimal | string => exact Nat.zero_le _
  | array _ ih => exact Nat.succ_le_succ (itemsDepth_le_iff.mpr ih)
  | object _ _ ih => exact Nat.succ_le_succ (membersDepth_le_iff.mpr ih)

/-- A value that is readable somewhere is readable wherever there is room for it. -/
theorem of_depth_le (readable : Readable P room value) (shallow : value.depth ≤ room') :
    Readable P room' value := by
  induction readable generalizing room' with
  | null => exact .null
  | bool b => exact .bool b
  | int least greatest => exact .int least greatest
  | decimal holds => exact .decimal holds
  | string s => exact .string s
  | array _ ih =>
    obtain ⟨inner, rfl⟩ := Nat.exists_eq_add_one_of_ne_zero (Nat.ne_zero_of_lt shallow)
    have items := itemsDepth_le_iff.mp (Nat.le_of_succ_le_succ shallow)
    exact .array fun item mem => ih item mem (items item mem)
  | object ordered _ ih =>
    obtain ⟨inner, rfl⟩ := Nat.exists_eq_add_one_of_ne_zero (Nat.ne_zero_of_lt shallow)
    have members := membersDepth_le_iff.mp (Nat.le_of_succ_le_succ shallow)
    exact .object ordered fun member mem => ih member mem (members member mem)

end Readable

/-! ## A value of every depth -/

/-- Nothing, in so many lists. -/
def nested : Nat → Json
  | 0 => .null
  | n + 1 => .array [nested n]

theorem depth_nested (n : Nat) : (nested n).depth = n := by
  induction n with
  | zero => rfl
  | succ n ih => rw [nested, depth, itemsDepth, itemsDepth, ih, Nat.max_zero]

theorem readable_nested (P : Binary64 → Prop) (n : Nat) : Readable P n (nested n) := by
  induction n with
  | zero => exact .null
  | succ n ih => exact .array (List.forall_mem_singleton.mpr ih)

/-! ## Values without a room -/

/-- A value whose whole numbers fit sixty-four bits and whose keys stand in order, however deep it
nests. -/
def Regular (value : Json) : Prop := ∃ room, Bounded room value

/-- A regular value whose decimals read back is readable where there is room for it. -/
theorem Regular.readable {value : Json} {room : Nat} (regular : value.Regular)
    (decimals : ∀ x, (Json.decimal x).Within value → ReadsBack x) (shallow : value.depth ≤ room) :
    Readable ReadsBack room value := by
  obtain ⟨_, bounded⟩ := regular
  exact (bounded.of_depth_le shallow).of_decimals decimals

end NovelScript.Json
