import NovelScript.Project.Path

/-!
# The common directory — the longest one that paths share

The directories of the paths are compared component by component, letters of either case of ASCII
being one letter; the result is spelled as in the first path. There is none for no paths at all, nor
if one of them has no directory.
-/

set_option autoImplicit false

namespace NovelScript

/-- A text with the capital letters of ASCII made small. -/
def foldCase (text : String) : String := text.map Char.toLower

/-- Whether two components are one, letter case apart. -/
def sameComponent (a b : Path.Component) : Bool := foldCase a.text == foldCase b.text

/-- The front of the first list that the second agrees with. -/
def sharedFront : List Path.Component → List Path.Component → List Path.Component
  | a :: as, b :: bs => if sameComponent a b then a :: sharedFront as bs else []
  | _, _ => []

/-- The front of a directory that all paths agree with, if all of them have a directory. -/
def sharedByAll (common : List Path.Component) : List Path → Option (List Path.Component)
  | [] => some common
  | p :: rest =>
    match p.parent? with
    | some directory => sharedByAll (sharedFront common directory.components) rest
    | none => none

/-- The longest directory that all paths share. -/
def commonDirectory? : List Path → Option Path
  | [] => none
  | first :: rest =>
    match first.parent? with
    | some directory => (sharedByAll directory.components rest).map Path.ofComponents
    | none => none

end NovelScript
