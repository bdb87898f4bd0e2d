import EditorBlocks.Validation.Block

/-!
# File reports

What validation says about all the definitions of a file.  The definitions of a
list are validated at their positions in it, and a definition alone at the root.
-/

namespace EditorBlocks

structure FileReport where
  path : String
  mode : Validation.Mode
  /-- How many definitions were looked at. -/
  documents : Nat
  /-- How many of them were accepted. -/
  accepted : Nat
  violations : Violations
deriving DecidableEq, Repr

namespace FileReport

def failed (r : FileReport) : Nat := r.documents - r.accepted

def isValid (r : FileReport) : Bool := r.failed = 0

def errorCount (r : FileReport) : Nat := r.violations.errors.length

def warningCount (r : FileReport) : Nat := r.violations.length - r.errorCount

/-- A report on a file of which nothing was looked at. -/
def empty (path : String) (mode : Validation.Mode) : FileReport := ⟨path, mode, 0, 0, []⟩

/-- Adds what was found about one more definition. -/
def add (r : FileReport) (found : Validation.Report) : FileReport :=
  { r with
    documents := r.documents + 1
    accepted := if found.isValid then r.accepted + 1 else r.accepted
    violations := r.violations ++ found.violations }

/-- The outcomes up to the first one that is bad, and that one too. -/
def untilRejected : List Validation.Report → List Validation.Report
  | [] => []
  | found :: rest => if found.isValid then found :: untilRejected rest else [found]

/-- The outcome for each definition of a document. -/
def outcomes (context : Validation.Context) : Json → List Validation.Report
  | .list items => items.zipIdx.map fun (item, i) => Validation.validate (context.entry i) item
  | single => [Validation.validate context single]

/-- The report on a file by its document.  With `failFast` nothing is looked at
behind the first bad definition. -/
def ofDocument (path : String) (context : Validation.Context) (failFast : Bool)
    (document : Json) : FileReport :=
  let found := outcomes context document
  (if failFast then untilRejected found else found).foldl add (empty path context.mode)

def toJson (r : FileReport) : Json :=
  .object [("path", .string r.path), ("mode", .string r.mode.name),
    ("documents", .ofNat r.documents), ("accepted", .ofNat r.accepted),
    ("violations", .list (r.violations.map Violation.toJson))]

end FileReport

end EditorBlocks
