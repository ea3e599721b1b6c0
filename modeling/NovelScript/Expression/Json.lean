import NovelScript.Expression.Assignment
import NovelScript.Options
import NovelScript.Json.Record

/-!
# Targets and options as JSON

The target of an assignment is a record without required fields: a missing keyword is none, a
missing type is any. Options need both their fields.
-/

set_option autoImplicit false

namespace NovelScript

/-- One of the result types. -/
def ResultType.read : JsonReader ResultType :=
  Json.readWordOf (ResultType.all.map fun t => (t.word, t))

namespace Target

/-- The target that a record without members is. -/
def blank : Target := ⟨none, .any⟩

/-- The record of a target. -/
def record : RecordType Target where
  name := "ExpressionInfo"
  start := blank
  fields := [
    .withDefault "keyword" (Json.readOptional Json.readText) fun x t => { t with keyword := x },
    .withDefault "resultType" ResultType.read fun x t => { t with resultType := x }]

/-- The target that a text is. -/
def parse (text : String) : Except ReadFault Target := Json.readDocument record.read text

/-- The target as a record. -/
def toJson (t : Target) : Json :=
  .object [("keyword", Json.ofText? t.keyword), ("resultType", .string t.resultType.word)]

end Target

/-- One of the output formats. -/
def OutputFormat.read : JsonReader OutputFormat :=
  Json.readWordOf (OutputFormat.all.map fun f => (f.word, f))

/-- One of the encodings. -/
def TextEncoding.read : JsonReader TextEncoding :=
  Json.readWordOf (TextEncoding.all.map fun e => (e.word, e))

namespace Options

/-- The record of the options. -/
def record : RecordType Options where
  name := "DecompileOptions"
  start := Options.default
  fields := [
    .required "format" OutputFormat.read fun x o => { o with format := x },
    .required "encoding" TextEncoding.read fun x o => { o with encoding := x }]

/-- The options that a text is. -/
def parse (text : String) : Except ReadFault Options := Json.readDocument record.read text

/-- The options as a record. -/
def toJson (o : Options) : Json :=
  .object [("format", .string o.format.word), ("encoding", .string o.encoding.word)]

end Options

end NovelScript
