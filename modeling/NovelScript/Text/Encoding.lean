import NovelScript.Text.Utf8
import NovelScript.Text.ShiftJis
import NovelScript.Text.Gbk

/-!
# Text encodings — how the strings of a script are stored

A script's strings are bytes in the encoding of the platform it was compiled for. Reading them never
fails: every encoding puts U+FFFD where its bytes have no character.
-/

set_option autoImplicit false

namespace NovelScript

/-- The encodings that scripts come in. -/
inductive TextEncoding where
  | shiftJis
  | gbk
  | utf8
  deriving DecidableEq, Repr, Inhabited

namespace TextEncoding

/-- The encodings, the most common one first. -/
def all : List TextEncoding := [.shiftJis, .gbk, .utf8]

/-- The encoding's word in stored options. -/
def word : TextEncoding → String
  | .shiftJis => "ShiftJis"
  | .gbk => "Gbk"
  | .utf8 => "Utf8"

/-- The text that bytes stand for. -/
def decode (encoding : TextEncoding) (bytes : List UInt8) : String :=
  String.ofList <| match encoding with
    | .shiftJis => ShiftJis.decode bytes
    | .gbk => Gbk.decode bytes
    | .utf8 => Utf8.decode bytes

end TextEncoding

end NovelScript
