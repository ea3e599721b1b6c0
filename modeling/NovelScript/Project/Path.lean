/-!
# Paths — names of files, read as components

A path is a text. What it means is read off it: the pieces between slashes, of which empty ones and
single dots do not count, except that a dot in the first place is a component of its own (`./a` is
not `a`). All operations work on the text, so what they do not change they leave as it was written,
repeated slashes included.

* `join` puts a path behind another; an absolute one takes its place.
* `parent?` drops the last component and whatever does not count around it.
* `fileName?` is the last component, if that is a name; it splits at its last dot into a stem and an
  extension, but a dot in the first place makes no extension.
* `withExtension` first takes as many bytes off the end of the path as the extension has, and then
  puts the new extension behind the stem of the name that is left. On a path that ends in its
  extension this replaces it.
-/

set_option autoImplicit false

namespace NovelScript

/-- The parts of a text between separators. -/
def splitAtEvery (separator : Char) : List Char → List (List Char)
  | [] => [[]]
  | c :: rest =>
    if c = separator then [] :: splitAtEvery separator rest
    else
      match splitAtEvery separator rest with
      | piece :: pieces => (c :: piece) :: pieces
      | [] => [[c]]

/-- There is always a part, if only an empty one. -/
theorem splitAtEvery_ne_nil (separator : Char) (text : List Char) :
    splitAtEvery separator text ≠ [] := by
  cases text with
  | nil => simp [splitAtEvery]
  | cons c rest =>
    unfold splitAtEvery
    split
    next => simp
    next => split <;> simp

/-- The parts, joined by the separator again, are the text. -/
theorem intercalate_splitAtEvery (separator : Char) (text : List Char) :
    [separator].intercalate (splitAtEvery separator text) = text := by
  induction text with
  | nil => rfl
  | cons c rest ih =>
    unfold splitAtEvery
    split
    next same =>
      subst same
      cases h : splitAtEvery c rest with
      | nil => exact absurd h (splitAtEvery_ne_nil c rest)
      | cons piece pieces =>
        rw [h] at ih
        simp [List.intercalate] at ih ⊢
        exact ih
    next other =>
      cases h : splitAtEvery separator rest with
      | nil => exact absurd h (splitAtEvery_ne_nil separator rest)
      | cons piece pieces =>
        rw [h] at ih
        cases pieces with
        | nil => simp [List.intercalate] at ih ⊢; exact ih
        | cons second others => simp [List.intercalate] at ih ⊢; exact ih

/-- No part holds the separator. -/
theorem not_mem_of_mem_splitAtEvery {separator : Char} {text piece : List Char}
    (h : piece ∈ splitAtEvery separator text) : separator ∉ piece := by
  induction text generalizing piece with
  | nil => simp [splitAtEvery] at h; simp [h]
  | cons c rest ih =>
    unfold splitAtEvery at h
    split at h
    next same =>
      rcases List.mem_cons.mp h with rfl | h
      · simp
      · exact ih h
    next other =>
      split at h
      next first others split =>
        rcases List.mem_cons.mp h with rfl | h
        · have := ih (split ▸ List.mem_cons_self)
          simp [this, Ne.symm other]
        · exact ih (split ▸ List.mem_cons_of_mem _ h)
      next => simp at h; simp [h, Ne.symm other]

/-- The name of a file. -/
structure Path where
  text : String
  deriving DecidableEq, Repr, Inhabited

namespace Path

/-- A part of a path that counts. -/
inductive Component where
  | root
  | current
  | up
  | name (text : String)
  deriving DecidableEq, Repr

/-- A component as it is written. -/
def Component.text : Component → String
  | .root => "/"
  | .current => "."
  | .up => ".."
  | .name text => text

/-- How a path begins. -/
inductive Start where
  | root
  | current
  | plain
  deriving DecidableEq, Repr

/-- The beginning of a path as it is written. -/
def Start.text : Start → String
  | .root => "/"
  | .current => "."
  | .plain => ""

/-- The component that a beginning is, if it is one. -/
def Start.component? : Start → Option Component
  | .root => some .root
  | .current => some .current
  | .plain => none

/-- How a text begins as a path, and the rest of it. -/
def splitStart : List Char → Start × List Char
  | '/' :: rest => (.root, rest)
  | ['.'] => (.current, [])
  | '.' :: '/' :: rest => (.current, '/' :: rest)
  | text => (.plain, text)

/-- How a path begins. -/
def start (p : Path) : Start := (splitStart p.text.toList).1

/-- The pieces between slashes behind the beginning. -/
def pieces (p : Path) : List String :=
  (splitAtEvery '/' (splitStart p.text.toList).2).map String.ofList

/-- The path with a beginning and pieces. -/
def ofPieces (start : Start) (pieces : List String) : Path :=
  ⟨start.text ++ String.intercalate "/" pieces⟩

/-- Whether a piece is a component. -/
def counts (piece : String) : Bool := piece != "" && piece != "."

/-- The component that a piece is. -/
def ofPiece (piece : String) : Component := if piece = ".." then .up else .name piece

/-- The components of a path. -/
def components (p : Path) : List Component :=
  p.start.component?.toList ++ (p.pieces.filter counts).map ofPiece

/-- Pieces without those at the end that do not count. -/
def trimEnd (pieces : List String) : List String :=
  (pieces.reverse.dropWhile fun piece => !counts piece).reverse

/-- The path without its last component; none for the empty path and for the root. -/
def parent? (p : Path) : Option Path :=
  match trimEnd p.pieces, p.start with
  | [], .root => none
  | [], .plain => none
  | [], .current => some ⟨""⟩
  | pieces, start => some (ofPieces start (trimEnd pieces.dropLast))

/-- Whether a path does not depend on where it is looked up from. -/
def isAbsolute (p : Path) : Bool := p.start == .root

/-- A path behind another, with a slash between them where there is none. -/
def join (base tail : Path) : Path :=
  if tail.isAbsolute then tail
  else if base.text = "" ∨ base.text.toList.getLast? = some '/' then ⟨base.text ++ tail.text⟩
  else ⟨base.text ++ "/" ++ tail.text⟩

/-- The last component, if it is a name. -/
def fileName? (p : Path) : Option String :=
  match (trimEnd p.pieces).getLast? with
  | some piece => if piece = ".." then none else some piece
  | none => none

/-- A name up to its last dot, and what is behind that dot; all of it and nothing if the dot is
missing or opens the name. -/
def splitName (name : String) : String × Option String :=
  let reversed := name.toList.reverse
  let extension := (reversed.takeWhile (· ≠ '.')).reverse
  let stem := ((reversed.dropWhile (· ≠ '.')).drop 1).reverse
  if stem.isEmpty then (name, none) else (String.ofList stem, some (String.ofList extension))

/-- A text, the end first, without the characters that lie in its last `bytes` bytes. A character of
which only a part lies there stays: where a path is cut, it belongs to the old extension, and that
is replaced, so it matters that something is left of it and not what. -/
def dropBytes : (bytes : Nat) → List Char → List Char
  | _, [] => []
  | bytes, c :: rest =>
    if c.utf8Size ≤ bytes then dropBytes (bytes - c.utf8Size) rest else c :: rest

/-- The path without as many bytes at its end as its extension has. -/
def dropExtension (p : Path) : Path :=
  match p.fileName?.bind fun name => (splitName name).2 with
  | some extension =>
    ⟨String.ofList (dropBytes extension.utf8ByteSize p.text.toList.reverse).reverse⟩
  | none => p

/-- The path with an extension behind the stem of its name; unchanged if it has no name. -/
def appendExtension (p : Path) (extension : String) : Path :=
  match p.fileName? with
  | some name =>
    ofPieces p.start ((trimEnd p.pieces).dropLast ++ [(splitName name).1 ++ "." ++ extension])
  | none => p

/-- The path with another extension. -/
def withExtension (p : Path) (extension : String) : Path :=
  p.dropExtension.appendExtension extension

/-- The path of components: each put behind the others. -/
def ofComponents (components : List Component) : Path :=
  components.foldl (fun p c => p.join ⟨c.text⟩) ⟨""⟩

end Path

end NovelScript
