import EditorBlocks.Validation.Block

/-!
# Validating a list of documents

Every document is validated at its position in the list.  A batch succeeds when
all of its documents do.
-/

namespace EditorBlocks.Validation

structure BatchSettings where
  mode : Mode
  /-- Stop after the first document that fails. -/
  failFast : Bool
  /-- The most violations to collect; zero stands for no limit. -/
  maxErrors : Nat
  extensions : Option Registry
  mutators : Option Registry
deriving DecidableEq, Repr

namespace BatchSettings

def context (s : BatchSettings) : Context := ⟨s.mode, s.extensions, s.mutators, []⟩

end BatchSettings

/-- What a batch has come to so far. -/
structure Batch where
  definitions : List Definition
  violations : Violations
  failed : Bool

namespace Batch

def empty : Batch := ⟨[], [], false⟩

def add (b : Batch) (r : Report) : Batch :=
  ⟨b.definitions ++ r.definition.toList, b.violations ++ r.violations, b.failed || !r.isValid⟩

/-- Keeps the first violations; documents that were not looked at make the
batch fail. -/
def cut (b : Batch) (limit : Nat) (rest : List Json) : Batch :=
  { b with violations := b.violations.take limit, failed := b.failed || !rest.isEmpty }

/-- Goes on with the documents from `position` on. -/
def run (s : BatchSettings) (position : Nat) (b : Batch) : List Json → Batch
  | [] => b
  | document :: rest =>
    let report := validate (s.context.entry position) document
    let b := b.add report
    if 0 < s.maxErrors ∧ s.maxErrors ≤ b.violations.length then b.cut s.maxErrors rest
    else if !report.isValid && s.failFast then b
    else run s (position + 1) b rest

end Batch

/-- All definitions in order, or the violations found. -/
def validateBatch (s : BatchSettings) (documents : List Json) :
    Except Violations (List Definition) :=
  let b := Batch.run s 0 .empty documents
  if b.failed then .error b.violations else .ok b.definitions

end EditorBlocks.Validation
