import IntentSpec.Report.Basic
import IntentSpec.Text.Character

/-!
# Plain-text summaries

A summary is a few labelled lines and tables whose columns are as wide as their widest cell.

Widths count code points, and a line has no blanks at its end, so a summary can be compared with what a
terminal shows.  A cell that is missing from a row is empty and a surplus one is not shown; rows are made
from records, so neither happens to a report, but a table is also made from rows that come from elsewhere.

The rows of a report are sorted for their tables, the outcomes by their rule and the violations by their
code alone.  Rows that agree there keep the order in which the report has them, and this is not always the
order of the report's normal form, where what a violation refers to counts as well.

## Main definitions

* `Summary.table` — the lines of a table; a table without rows has none.
* `Report.outcomeRows`, `Report.violationRows` — the rows of a report.
* `Report.summary` — the summary of a report.
-/

namespace IntentSpec

namespace Summary

/-- A text followed by as many blanks as bring it to a width. -/
def padTo (width : Nat) (s : String) : List Char :=
  s.toList ++ List.replicate (width - s.length) ' '

/-- A label with its value. -/
def labelled (label value : String) : String := label ++ ": " ++ value

/-- The widths of the columns: that of the header, or of the widest cell below it. -/
def widths (headers : List String) (rows : List (List String)) : List Nat :=
  headers.zipIdx.map fun (header, column) =>
    (rows.filterMap fun row => row[column]?).foldl (fun width cell => max width cell.length)
      header.length

/-- One row, two blanks in front of it and between its cells, and none at its end.  A missing cell is
empty and a surplus one is not shown. -/
def rowLine (widths : List Nat) (cells : List String) : String :=
  let padded := widths.zipIdx.map fun (width, column) => padTo width (cells.getD column "")
  "  " ++ String.ofList (Text.trimEnd ("  ".toList.intercalate padded))

/-- The lines of a table with an optional title above it. -/
def table (headers : List String) (rows : List (List String)) (title : Option String) :
    List String :=
  if rows.isEmpty then []
  else
    let widths := widths headers rows
    let rule := "  " ++ "  ".intercalate (widths.map fun width => String.ofList (List.replicate width '-'))
    (if (title.getD "").isEmpty then [] else ["", title.getD ""]) ++
      [rowLine widths headers, rule] ++ rows.map (rowLine widths)

/-- Lines as a text, each with a line feed after it. -/
def printed (lines : List String) : String := String.join (lines.map (· ++ "\n"))

end Summary

namespace Report

/-- The row of an outcome in a summary. -/
def Outcome.row (o : Outcome) : List String :=
  [o.validation, o.status.name, ", ".intercalate (sortTexts o.targets), o.reason.getD ""]

/-- The row of a violation in a summary. -/
def Violation.row (v : Violation) : List String := [v.code, v.message]

/-- The rows of the outcomes, by their rule alone. -/
def outcomeRows (r : Report) : List (List String) :=
  (sortBy (fun (a b : Outcome) => textLe a.validation b.validation) r.outcomes).map Outcome.row

/-- The rows of the violations, by their code alone. -/
def violationRows (r : Report) : List (List String) :=
  (sortBy (fun (a b : Violation) => textLe a.code b.code) r.violations).map Violation.row

/-- The lines of the summary of a report. -/
def summary (r : Report) : List String :=
  [Summary.labelled "System" r.systemId, Summary.labelled "Spec version" r.specVersion,
    Summary.labelled "State" s!"{r.verdict.name} (exit {r.exitCode})"] ++
  Summary.table ["VALIDATION", "STATUS", "TARGETS", "REASON"] r.outcomeRows (some "Outcomes:") ++
  Summary.table ["CODE", "MESSAGE"] r.violationRows (some "Errors:")

end Report

end IntentSpec
