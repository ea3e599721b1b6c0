import NovelScript.Text.Encoding

/-!
# Options — what output is wanted, and how the strings are stored
-/

set_option autoImplicit false

namespace NovelScript

/-- The two forms of output. -/
inductive OutputFormat where
  | text
  | json
  deriving DecidableEq, Repr, Inhabited

namespace OutputFormat

/-- The formats, the default first. -/
def all : List OutputFormat := [.text, .json]

/-- The format's word in stored options. -/
def word : OutputFormat → String
  | .text => "Text"
  | .json => "Json"

end OutputFormat

/-- The options of a run. -/
structure Options where
  format : OutputFormat
  encoding : TextEncoding
  deriving DecidableEq, Repr, Inhabited

/-- Text output, and strings in Shift_JIS. -/
def Options.default : Options := ⟨.text, .shiftJis⟩

end NovelScript
