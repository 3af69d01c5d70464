import SpellLint.Report
import SpellLint.Value.Json

/-! # Reports as JSON -/

set_option autoImplicit false

namespace SpellLint

/-- A span as a value. -/
def Span.toValue (s : Span) : Value := .list [.int s.start, .int s.stop]

/-- A result as a value. -/
def Result.toValue (r : Result) : Value :=
  .record
    [("file", .text r.file.toString), ("check", .text r.check), ("severity", .text r.severity.label),
      ("passed", .bool r.passed), ("message", .text r.message), ("span", (r.span.map Span.toValue).getD .null),
      ("extra", r.details)]

/-- The report of a file as a value. -/
def FileReport.toValue (f : FileReport) : Value :=
  .record
    [("file", .text f.file.toString), ("extension", .text f.extension), ("size_bytes", .int f.size),
      ("verdict", .text f.verdict.label),
      ("counts", .record
        [("errors", .int f.errors), ("warnings", .int f.warnings), ("infos", .int f.infos),
          ("misspellings", .int f.misspellings)]),
      ("results", .list (f.results.map Result.toValue))]

/-- Totals as a value. -/
def Totals.toValue (t : Totals) : Value :=
  .record
    [("files", .int t.files), ("checks", .int t.checks), ("errors", .int t.errors), ("warnings", .int t.warnings),
      ("infos", .int t.infos), ("misspellings", .int t.misspellings)]

namespace Report

/-- A report as a value. -/
def toValue (stamp : Stamp) (r : Report) : Value :=
  .record
    [("schema_version", .text schema),
      ("header", .record
        [("run_id", .text stamp.id), ("inputs", .texts (r.inputs.map Path.toString)),
          ("started_at_utc", .text stamp.started), ("finished_at_utc", .text stamp.finished),
          ("config_snapshot", r.config), ("had_mistakes", .bool r.hadMistakes), ("totals", r.totals.toValue)]),
      ("files", .list (r.files.map FileReport.toValue))]

/-- A report as JSON. -/
def json (stamp : Stamp) (r : Report) : String := (r.toValue stamp).json .file

end Report

end SpellLint
