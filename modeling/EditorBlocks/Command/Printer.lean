import EditorBlocks.Output.Human
import EditorBlocks.Output.Summary

/-!
# Printing results

People are told how things went, unless they want it quiet; data formats hold
nothing but the results.
-/

namespace EditorBlocks

structure Printer where
  format : OutputFormat
  quiet : Bool
deriving DecidableEq, Repr

namespace Printer

def isHuman (p : Printer) : Bool := p.format = .human

def line (text : String) : String := text ++ "\n"

/-- A text that ends with a line. -/
def ended (text : String) : String := if text.endsWith "\n" then text else line text

def info (p : Printer) (text : String) : String :=
  if p.quiet || !p.isHuman then "" else line ("INFO: " ++ text)

def success (p : Printer) (text : String) : String :=
  if p.quiet || !p.isHuman then "" else line text

def warning (p : Printer) (text : String) : String :=
  if p.isHuman then line ("WARNING: " ++ text) else ""

def error (p : Printer) (text : String) : String :=
  if p.isHuman then line ("ERROR: " ++ text) else ""

def data (p : Printer) (value : Json) : String := ended (p.format.write value)

def headline (p : Printer) (r : FileReport) : String :=
  if !r.isValid then p.error r.headline
  else if r.violations.isEmpty then p.success r.headline
  else p.warning r.headline

/-- The report on a file.  In quiet a good file gets no more than a headline. -/
def fileReport (p : Printer) (r : FileReport) : String :=
  p.headline r ++
    if p.quiet && r.isValid then ""
    else String.join (r.violations.map fun v => line ("  " ++ v.line))

def fileReports (p : Printer) (reports : List FileReport) : String :=
  if p.isHuman then String.join (reports.map p.fileReport)
  else ended (FileReport.writeAll p.format reports)

def summary (p : Printer) (s : Summary) : String := ended (s.write p.format)

end Printer

end EditorBlocks
