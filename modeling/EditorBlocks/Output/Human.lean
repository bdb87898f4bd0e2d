import EditorBlocks.Output.FileReport
import EditorBlocks.Output.Format

/-!
# File reports for people

A headline for each file, and a line for each violation.
-/

namespace EditorBlocks

/-- Fills a word up with blanks to a width. -/
def padded (width : Nat) (word : String) : String :=
  word ++ String.ofList (List.replicate (width - word.length) ' ')

/-- A violation on a line, with its severity in a column of its own. -/
def Violation.line (v : Violation) : String :=
  padded 7 v.severity.name ++ " " ++ v.path.text ++ " [" ++ v.kind.text ++ "] " ++ v.detail

namespace FileReport

/-- How many errors and warnings there are, unless there are none. -/
def tally (errors warnings : Nat) : String :=
  (if errors = 0 then "" else ", " ++ toString errors ++ " error(s)") ++
    (if warnings = 0 then "" else ", " ++ toString warnings ++ " warning(s)")

def headline (r : FileReport) : String :=
  r.path ++ ": " ++ toString r.accepted ++ "/" ++ toString r.documents ++
    " definition(s) valid (" ++ r.mode.name ++ " mode)" ++ tally r.errorCount r.warningCount

def lines (r : FileReport) : List String :=
  r.headline :: r.violations.map fun v => "  " ++ v.line

/-- Reports in a format. -/
def writeAll (format : OutputFormat) (reports : List FileReport) : String :=
  match format with
  | .human => String.join ((reports.flatMap lines).map (· ++ "\n"))
  | _ => format.write (.list (reports.map toJson))

end FileReport

end EditorBlocks
