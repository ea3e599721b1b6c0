import NovelScript.Project.Path

/-!
# The store — files and directories below a working directory

A store is what the commands need of a file system: files with text in them, and directories. A
place in it is an anchor and the names on the way down from it. The anchor is the root, or the
working directory, or a directory some levels above that; these exist from the start, and what else
is there is what the store lists.

A path is looked up piece by piece. Every piece but the last has to lead to a directory, two dots go
up, and one dot and an empty piece stay. A path is a string of bytes that a zero ends, so one with a
zero inside is refused, and neither a path nor a name may be too long. The operations fail as file
systems do, and leave the store as it was when they fail.
-/

set_option autoImplicit false

namespace NovelScript

/-- Why an operation on files fails. -/
inductive FileError where
  | notFound
  | alreadyExists
  | notDirectory
  | isDirectory
  | nameTooLong
  /-- The path has a zero inside. -/
  | zeroInPath
  /-- Any other reason, as the system gives it. -/
  | other (text : String)
  deriving DecidableEq, Repr

/-- The text of a failure. -/
def FileError.message : FileError → String
  | .notFound => "No such file or directory (os error 2)"
  | .alreadyExists => "File exists (os error 17)"
  | .notDirectory => "Not a directory (os error 20)"
  | .isDirectory => "Is a directory (os error 21)"
  | .nameTooLong => "File name too long (os error 36)"
  | .zeroInPath => "file name contained an unexpected NUL byte"
  | .other text => text

/-- The number of bytes that a name may have. -/
def maxNameBytes : Nat := 255

/-- The number of bytes that a path may have. -/
def maxPathBytes : Nat := 4095

/-- Whether a name is too long. -/
def isLongName (name : String) : Bool := maxNameBytes < name.utf8ByteSize

/-- A directory that is always there. -/
inductive Anchor where
  | root
  /-- The directory so many levels above the working directory. -/
  | above (levels : Nat)
  deriving DecidableEq, Repr

/-- A place in the tree of directories. -/
structure Location where
  anchor : Anchor
  names : List String
  deriving DecidableEq, Repr

namespace Location

/-- The place of a name in a directory. -/
def child (l : Location) (name : String) : Location := ⟨l.anchor, l.names ++ [name]⟩

/-- The directory around a place. -/
def up (l : Location) : Location :=
  if l.names.isEmpty then
    match l.anchor with
    | .root => l
    | .above levels => ⟨.above (levels + 1), []⟩
  else ⟨l.anchor, l.names.dropLast⟩

/-- Whether the name of a place is too long for the directory around it. -/
def isLong (l : Location) : Bool := l.names.getLast?.any isLongName

end Location

/-- Files and directories. -/
structure Store where
  files : List (Location × String)
  directories : List Location
  deriving DecidableEq, Repr, Inhabited

namespace Store

/-- The text of the file at a place. -/
def file? (s : Store) (l : Location) : Option String := s.files.lookup l

/-- Whether there is a directory at a place. -/
def hasDirectory (s : Store) (l : Location) : Bool := l.names.isEmpty || s.directories.contains l

/-- The directory that a piece leads to from a directory. -/
def enter (s : Store) (from_ : Location) (piece : String) : Except FileError Location :=
  if !Path.counts piece then .ok from_
  else if piece = ".." then .ok from_.up
  else if isLongName piece then .error .nameTooLong
  else if s.hasDirectory (from_.child piece) then .ok (from_.child piece)
  else if (s.file? (from_.child piece)).isSome then .error .notDirectory
  else .error .notFound

/-- The directory that pieces lead to, one after the other. -/
def enterAll (s : Store) (from_ : Location) : List String → Except FileError Location
  | [] => .ok from_
  | piece :: rest =>
    match s.enter from_ piece with
    | .ok next => enterAll s next rest
    | .error e => .error e

/-- Where the pieces of a path are looked up from. -/
def origin (p : Path) : Location :=
  match p.start with
  | .root => ⟨.root, []⟩
  | _ => ⟨.above 0, []⟩

/-- What a path leads to: a directory by itself, or a name in a directory, perhaps with slashes
behind it. -/
inductive Target where
  | directory (l : Location)
  | name (l : Location) (slash : Bool)

/-- What a path leads to. -/
def locate (s : Store) (p : Path) : Except FileError Target :=
  if p.text.toList.contains '\x00' then .error .zeroInPath
  else if p.text = "" then .error .notFound
  else if maxPathBytes < p.text.utf8ByteSize then .error .nameTooLong
  else
    let pieces := (p.pieces.reverse.dropWhile (· = "")).reverse
    match pieces.getLast? with
    | none => .ok (.directory (origin p))
    | some last =>
      match s.enterAll (origin p) pieces.dropLast with
      | .error e => .error e
      | .ok directory =>
        if last = "." then .ok (.directory directory)
        else if last = ".." then .ok (.directory directory.up)
        else .ok (.name (directory.child last) (p.pieces.getLast? == some ""))

/-- The text of the file that a path names. -/
def readFile (s : Store) (p : Path) : Except FileError String :=
  match s.locate p with
  | .error e => .error e
  | .ok (.directory _) => .error .isDirectory
  | .ok (.name l slash) =>
    if s.hasDirectory l then .error .isDirectory
    else
      match s.file? l with
      | some text => if slash then .error .notDirectory else .ok text
      | none => .error (if l.isLong then .nameTooLong else .notFound)

/-- Files with a text at a place. -/
def setFile (l : Location) (text : String) : List (Location × String) → List (Location × String)
  | [] => [(l, text)]
  | (k, old) :: rest => if k = l then (l, text) :: rest else (k, old) :: setFile l text rest

/-- A write is seen at its own place and nowhere else. -/
theorem lookup_setFile (l k : Location) (text : String) (files : List (Location × String)) :
    (setFile l text files).lookup k = if k = l then some text else files.lookup k := by
  induction files with
  | nil =>
    by_cases h : k = l
    · simp [setFile, h]
    · simp [setFile, List.lookup_cons, beq_eq_false_iff_ne.mpr h, h]
  | cons file rest ih =>
    obtain ⟨place, old⟩ := file
    unfold setFile
    split
    next same =>
      by_cases h : k = l
      · simp [h]
      · simp [List.lookup_cons, same, beq_eq_false_iff_ne.mpr h, h]
    next other =>
      by_cases h : k = place
      · simp [h, other]
      · simp [List.lookup_cons, ih, beq_eq_false_iff_ne.mpr h]

/-- The store with a text in the file that a path names. -/
def writeFile (s : Store) (p : Path) (text : String) : Except FileError Store :=
  match s.locate p with
  | .error e => .error e
  | .ok (.directory _) => .error .isDirectory
  | .ok (.name l slash) =>
    if slash || s.hasDirectory l then .error .isDirectory
    else if l.isLong then .error .nameTooLong
    else .ok { s with files := setFile l text s.files }

/-- Whether a path leads to a directory. -/
def isDirectory (s : Store) (p : Path) : Bool :=
  match s.locate p with
  | .error _ => false
  | .ok (.directory _) => true
  | .ok (.name l _) => s.hasDirectory l

/-- The store with a directory that a path names, in a directory that is there. -/
def makeDirectory (s : Store) (p : Path) : Except FileError Store :=
  match s.locate p with
  | .error e => .error e
  | .ok (.directory _) => .error .alreadyExists
  | .ok (.name l _) =>
    if s.hasDirectory l || (s.file? l).isSome then .error .alreadyExists
    else if l.isLong then .error .nameTooLong
    else .ok { s with directories := s.directories ++ [l] }

/-- The store after an attempt to make a directory; one that is there already will do. -/
def settle (s : Store) (p : Path) : Except FileError Store → Except FileError Store
  | .error .alreadyExists => if s.isDirectory p then .ok s else .error .alreadyExists
  | result => result

/-- The store with a directory and all that it lies in, at most `levels` levels of them. -/
def makeDirectoriesWithin : (levels : Nat) → Store → Path → Except FileError Store
  | 0, s, p => s.settle p (s.makeDirectory p)
  | levels + 1, s, p =>
    match p.text, p.parent? with
    | "", _ => .ok s
    | _, none => .ok s
    | _, some parent =>
      match s.settle p (s.makeDirectory p) with
      | .error .notFound =>
        match makeDirectoriesWithin levels s parent with
        | .error e => .error e
        | .ok s => s.settle p (s.makeDirectory p)
      | result => result

/-- The store with a directory and all that it lies in. Every parent is a shorter text, so the text
bounds how many there are. -/
def makeDirectories (s : Store) (p : Path) : Except FileError Store :=
  makeDirectoriesWithin (p.text.length + 1) s p

end Store

end NovelScript
