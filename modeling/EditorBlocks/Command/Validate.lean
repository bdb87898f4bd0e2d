import EditorBlocks.Command.Ending
import EditorBlocks.Command.Printer

/-!
# Commands on definitions

Validating the definitions of files, and inspecting one definition of a file.
-/

namespace EditorBlocks

/-! ## Validating -/

/-- The reports on files, one after the other, and the surroundings after them.  With
`failFast` the first bad file is the last one. -/
def fileReports (context : Validation.Context) (failFast : Bool) (w : World) :
    List String → Except Failure (List FileReport) × World
  | [] => (.ok [], w)
  | path :: rest =>
    match w.readDocument path with
    | .error f => (.error f, w)
    | .ok (document, w) =>
      let report := FileReport.ofDocument (World.displayName path) context failFast document
      if !report.isValid && failFast then (.ok [report], w)
      else
        let (reports, w) := fileReports context failFast w rest
        (reports.map (report :: ·), w)

/-- A count over all reports. -/
def total (count : FileReport → Nat) : List FileReport → Nat
  | [] => 0
  | report :: rest => count report + total count rest

/-- Prints the reports, and fails if some definition is bad. -/
def verdict (p : Printer) (w : World) (reports : List FileReport) : Ending :=
  let documents := total FileReport.documents reports
  let failed := total FileReport.failed reports
  let printed := p.fileReports reports
  if 0 < failed then ⟨printed, w, some (.rejected failed documents)⟩
  else
    let summary :=
      "All " ++ toString documents ++ " definition(s) in " ++ toString reports.length ++
        " file(s) are valid"
    .success (printed ++ if 1 < reports.length then p.success summary else "") w

def validateFiles (w : World) (settings : ValidationSettings) (p : Printer)
    (paths : List String) (mode : Option Validation.Mode) (failFast : Bool) : Ending :=
  let batch := settings.toBatch mode
  match fileReports batch.context (failFast || batch.failFast) w paths with
  | (.error f, w) => .failed w f
  | (.ok reports, w) => verdict p w reports

/-! ## Inspecting -/

/-- The definition to inspect, with its place.  In a list it has to be picked,
unless it is alone there. -/
def selectDefinition (context : Validation.Context) (index : Option Nat) (document : Json) :
    Except ArgumentsFault (Json × Validation.Context) :=
  match document with
  | .list items =>
    match index with
    | some i =>
      match items[i]? with
      | some item => .ok (item, context.entry i)
      | none => .error (.indexTooLarge i items.length)
    | none =>
      match items with
      | [item] => .ok (item, context.entry 0)
      | items => .error (.indexNeeded items.length)
  | single =>
    match index with
    | none | some 0 => .ok (single, context)
    | some i => .error (.indexOfSingle i)

def inspectReport (p : Printer) (w : World) (path : String) (found : Validation.Report) :
    Ending :=
  match found.definition with
  | some definition => .success (p.summary ⟨definition, found.violations⟩) w
  | none =>
    let report := (FileReport.empty (World.displayName path) found.mode).add found
    ⟨p.fileReports [report], w, some (.rejected 1 1)⟩

def inspectFile (w : World) (settings : ValidationSettings) (p : Printer) (path : String)
    (index : Option Nat) (mode : Option Validation.Mode) : Ending :=
  match w.readDocument path with
  | .error f => .failed w f
  | .ok (document, w) =>
    match selectDefinition (settings.toBatch mode).context index document with
    | .error fault => .failed w (.arguments fault)
    | .ok (definition, context) =>
      inspectReport p w path (Validation.validate context definition)

end EditorBlocks
