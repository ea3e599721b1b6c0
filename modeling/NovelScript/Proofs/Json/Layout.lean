import NovelScript.Proofs.Json.Lexemes
import NovelScript.Proofs.Text.Split

/-!
# Layout — what a JSON text is apart from its blanks

The compact form and the indented form of a value differ in the blanks between their tokens. A text
is a writing of a value (`Written`) if it has the value's tokens with blanks where those may stand:
before the items and members of a container, before its closing mark, and behind colons. Both forms
are writings, so whatever reads every writing of a value back reads both.

## What is proved

`written_compact`, `written_indented`: both printed forms of a value are writings of it.
-/

set_option autoImplicit false

namespace NovelScript.Json

/-- A property of all values, from the values that have no parts up. -/
@[elab_as_elim] theorem induct {P : Json → Prop} (null : P .null) (bool : ∀ b, P (.bool b))
    (int : ∀ n, P (.int n)) (decimal : ∀ x, P (.decimal x)) (string : ∀ s, P (.string s))
    (array : ∀ items, (∀ item ∈ items, P item) → P (.array items))
    (object : ∀ members, (∀ member ∈ members, P member.2) → P (.object members)) :
    ∀ value, P value
  | .null => null
  | .bool b => bool b
  | .int n => int n
  | .decimal x => decimal x
  | .string s => string s
  | .array items =>
    array items fun item _ => induct null bool int decimal string array object item
  | .object members =>
    object members fun member _ => induct null bool int decimal string array object member.2
termination_by value => sizeOf value
decreasing_by
  · rename_i mem
    have smaller := List.sizeOf_lt_of_mem mem
    simp only [Json.array.sizeOf_spec]
    omega
  · rename_i mem
    have smaller := List.sizeOf_lt_of_mem mem
    obtain ⟨key, value⟩ := member
    simp only [Json.object.sizeOf_spec, Prod.mk.sizeOf_spec] at smaller ⊢
    omega

/-- A text of characters that may stand between tokens. -/
def Blank (gap : List Char) : Prop := ∀ c ∈ gap, isSpace c = true

theorem Blank.nil : Blank [] := List.forall_mem_nil _

/-- Parts with a comma and a gap before each. -/
def following (gap : List Char) (parts : List (List Char)) : List Char :=
  parts.flatMap fun part => ',' :: (gap ++ part)

/-- Parts with commas between them, a gap before each of them and one behind the last; nothing for
no parts. -/
def spread (gap last : List Char) : List (List Char) → List Char
  | [] => []
  | part :: parts => gap ++ part ++ following gap parts ++ last

/-- A member of an object: its key, a colon, a gap and the text of its value. -/
def memberText (gap : List Char) (key : String) (value : List Char) : List Char :=
  '"' :: (key.toList.flatMap escape ++ '"' :: ':' :: (gap ++ value))

/-- The texts of members, given as keys and the texts of values. -/
def memberTexts (gap : List Char) (members : List (String × List Char)) : List (List Char) :=
  members.map fun m => memberText gap m.1 m.2

/-- The texts that a value may be written as. -/
inductive Written : Json → List Char → Prop
  | null : Written .null ['n', 'u', 'l', 'l']
  | bool (b : Bool) : Written (.bool b) (boolWord b).toList
  | int (n : Int) : Written (.int n) (wholeText n).toList
  | decimal (x : Binary64) : Written (.decimal x) (DecimalStyle.json.write x).toList
  | string (s : String) : Written (.string s) ('"' :: (s.toList.flatMap escape ++ ['"']))
  | array {items : List Json} {text : Json → List Char} {gap last : List Char} :
      Blank gap → Blank last → (∀ item ∈ items, Written item (text item)) →
      Written (.array items) ('[' :: (spread gap last (items.map text) ++ [']']))
  | object {members : List (String × Json)} {text : Json → List Char}
      {gap last between : List Char} :
      Blank gap → Blank last → Blank between →
      (∀ member ∈ members, Written member.2 (text member.2)) →
      Written (.object members) ('\x7b' ::
        (spread gap last (memberTexts between (members.map fun m => (m.1, text m.2))) ++ ['\x7d']))

/-! ## The printed forms -/

theorem toList_quote (text : String) :
    (quote text).toList = '"' :: (text.toList.flatMap escape ++ ['"']) := by
  simp [quote]

theorem compactItems_eq_map (items : List Json) : compactItems items = items.map compact := by
  induction items with
  | nil => rfl
  | cons item rest ih => rw [compactItems, List.map_cons, ih]

theorem compactMembers_eq_map (members : List (String × Json)) :
    compactMembers members = members.map fun m => quote m.1 ++ ":" ++ m.2.compact := by
  induction members with
  | nil => rfl
  | cons member rest ih => rw [compactMembers, List.map_cons, ih]

theorem indentedItems_eq_map (depth : Nat) (items : List Json) :
    indentedItems depth items = items.map (indented depth) := by
  induction items with
  | nil => rfl
  | cons item rest ih => rw [indentedItems, List.map_cons, ih]

theorem indentedMembers_eq_map (depth : Nat) (members : List (String × Json)) :
    indentedMembers depth members =
      members.map fun m => quote m.1 ++ ": " ++ m.2.indented depth := by
  induction members with
  | nil => rfl
  | cons member rest ih => rw [indentedMembers, List.map_cons, ih]

theorem blank_lineStart (depth : Nat) : Blank (lineStart depth).toList := by
  intro c mem
  have cases : c = '\n' ∨ c = ' ' := by
    rw [lineStart, String.toList_append] at mem
    rcases List.mem_append.mp mem with newline | space
    · exact .inl (List.mem_singleton.mp newline)
    · rw [String.toList_ofList] at space
      exact .inr (List.eq_of_mem_replicate space)
  rcases cases with rfl | rfl <;> rfl

theorem blank_space : Blank [' '] := by
  intro c mem
  obtain rfl := List.mem_singleton.mp mem
  rfl

/-- A block is its parts, each on a line of its own. -/
theorem toList_block (opening closing : String) (depth : Nat) (parts : List String) :
    (block opening closing depth parts).toList =
      opening.toList ++ (spread (lineStart (depth + 1)).toList (lineStart depth).toList
        (parts.map String.toList) ++ closing.toList) := by
  cases parts with
  | nil => simp [block, spread]
  | cons part parts =>
    simp [block, spread, following, intercalate_cons_flatMap, List.flatMap_map]

/-- Parts joined by commas are spread without gaps. -/
theorem toList_intercalate (parts : List String) :
    (String.intercalate "," parts).toList = spread [] [] (parts.map String.toList) := by
  cases parts with
  | nil => rfl
  | cons part parts => simp [spread, following, intercalate_cons_flatMap, List.flatMap_map]

/-- The compact form of a value is a writing of it. -/
theorem written_compact (value : Json) : Written value value.compact.toList := by
  induction value using induct with
  | null => simpa [compact] using Written.null
  | bool b => simpa [compact] using Written.bool b
  | int n => simpa [compact] using Written.int n
  | decimal x => simpa [compact] using Written.decimal x
  | string s =>
    rw [compact, toList_quote]
    exact .string s
  | array items ih =>
    rw [compact, String.toList_append, String.toList_append, toList_intercalate,
      compactItems_eq_map, List.map_map]
    exact .array .nil .nil ih
  | object members ih =>
    have texts : (compactMembers members).map String.toList =
        memberTexts [] (members.map fun m => (m.1, m.2.compact.toList)) := by
      rw [compactMembers_eq_map, List.map_map]
      simp [Function.comp_def, memberTexts, memberText, toList_quote]
    rw [compact, String.toList_append, String.toList_append, toList_intercalate, texts]
    exact @Written.object _ (fun value => value.compact.toList) _ _ _ .nil .nil .nil ih

/-- The indented form of a value is a writing of it, at every depth. -/
theorem written_indented (value : Json) (depth : Nat) :
    Written value (value.indented depth).toList := by
  induction value using induct generalizing depth with
  | null => simpa [indented] using Written.null
  | bool b => simpa [indented] using Written.bool b
  | int n => simpa [indented] using Written.int n
  | decimal x => simpa [indented] using Written.decimal x
  | string s =>
    rw [indented, toList_quote]
    exact .string s
  | array items ih =>
    rw [indented, toList_block, indentedItems_eq_map, List.map_map]
    exact .array (blank_lineStart _) (blank_lineStart _) fun item mem => ih item mem (depth + 1)
  | object members ih =>
    have texts : (indentedMembers (depth + 1) members).map String.toList =
        memberTexts [' '] (members.map fun m => (m.1, (m.2.indented (depth + 1)).toList)) := by
      rw [indentedMembers_eq_map, List.map_map]
      simp [Function.comp_def, memberTexts, memberText, toList_quote]
    rw [indented, toList_block, texts]
    exact @Written.object _ (fun value => (value.indented (depth + 1)).toList) _ _ _
      (blank_lineStart _) (blank_lineStart _) blank_space
      fun member mem => ih member mem (depth + 1)

end NovelScript.Json
