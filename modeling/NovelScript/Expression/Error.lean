import NovelScript.Expression.Report
import NovelScript.Wire.Decoder

/-!
# Expression errors — a kind, a report, perhaps a cause

Four kinds of errors are found by reduction itself, at a node or at the end of the list. The fifth,
an unhandled exception, wraps what came from elsewhere: bytes that could not be decoded, or a
literal whose negative does not fit. Such an error belongs to no node and keeps what caused it.
-/

set_option autoImplicit false

namespace NovelScript

/-- The kinds of errors. -/
inductive ErrorKind where
  | stackUnderflow
  | unterminatedArrayAccess
  | unsupportedNegateTarget
  | nonSingularResult
  /-- What reduction did not raise itself. -/
  | unhandled
  deriving DecidableEq, Repr, Inhabited

namespace ErrorKind

/-- The kind as it opens a message. -/
def text : ErrorKind → String
  | .stackUnderflow => "stack underflow"
  | .unterminatedArrayAccess => "unterminated array access"
  | .unsupportedNegateTarget => "unsupported negate target"
  | .nonSingularResult => "non-singular result"
  | .unhandled => "unhandled exception"

/-- The kind as a name. -/
def name : ErrorKind → String
  | .stackUnderflow => "StackUnderflow"
  | .unterminatedArrayAccess => "UnterminatedArrayAccess"
  | .unsupportedNegateTarget => "UnsupportedNegateTarget"
  | .nonSingularResult => "NonSingularResult"
  | .unhandled => "Unhandled"

end ErrorKind

/-- What an unhandled exception wraps. -/
inductive Cause where
  | decoding (error : DecodeError)
  | negation (error : NegateError)
  | other (text : String)
  deriving DecidableEq, Repr

/-- The text of a cause. -/
def Cause.message : Cause → String
  | .decoding error => error.message
  | .negation error => error.message
  | .other text => text

/-- Why an expression could not be reconstructed. -/
structure ExpressionError where
  kind : ErrorKind
  report : Report
  cause : Option Cause
  deriving DecidableEq, Repr

namespace ExpressionError

/-- An error of reduction itself. -/
def ofReport (kind : ErrorKind) (report : Report) : ExpressionError := ⟨kind, report, none⟩

/-- An error that wraps a cause. -/
def unhandled (report : Report) (cause : Cause) : ExpressionError :=
  ⟨.unhandled, report, some cause⟩

/-- The message: the kind and the reason. -/
def message (e : ExpressionError) : String := e.kind.text ++ ": " ++ e.report.reason

/-- The full report, with the cause as its last line. -/
def diagnostic (e : ExpressionError) : String :=
  e.report.text ++
    match e.cause with
    | some cause => "\nCaused by: " ++ cause.message
    | none => ""

/-- The error of bytes that could not be decoded: no stack, and the nodes before the failure. -/
def ofDecoding (context : Context) (nodes : List Node) (error : DecodeError) : ExpressionError :=
  unhandled
    (Report.capture "unhandled exception during decode" .outside none context [] nodes)
    (.decoding error)

end ExpressionError

end NovelScript
