import NovelScript.Text.Invisible

/-!
# Quoted texts — how messages name a text

Messages put a text they name in quotes, with a backslash before quotes and backslashes, letters for
the four common control characters, and numbers for the characters that do not show. Names of files
have an apostrophe escaped too; other texts do not.
-/

set_option autoImplicit false

namespace NovelScript

/-- The choices of a quoted form. -/
structure QuoteStyle where
  /-- Whether an apostrophe is escaped. -/
  apostrophe : Bool

/-- The form for texts. -/
def QuoteStyle.text : QuoteStyle := ⟨false⟩

/-- The form for names of files. -/
def QuoteStyle.path : QuoteStyle := ⟨true⟩

/-- A character as it stands between quotes. -/
def QuoteStyle.escape (style : QuoteStyle) (c : Char) : List Char :=
  if c = '\x00' then ['\\', '0']
  else if c = '\t' then ['\\', 't']
  else if c = '\x0d' then ['\\', 'r']
  else if c = '\n' then ['\\', 'n']
  else if c = '"' || c = '\\' then ['\\', c]
  else if c = '\x27' then (if style.apostrophe then ['\\', c] else [c])
  else if isInvisible c then ['\\', 'u', '\x7b'] ++ Nat.toDigits 16 c.toNat ++ ['\x7d']
  else [c]

/-- A text in quotes. -/
def QuoteStyle.quote (style : QuoteStyle) (text : String) : String :=
  "\"" ++ String.ofList (text.toList.flatMap style.escape) ++ "\""

end NovelScript
