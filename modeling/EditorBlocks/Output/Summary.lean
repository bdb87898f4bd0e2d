import EditorBlocks.Generator
import EditorBlocks.Output.Human
import EditorBlocks.Text.Quoted

/-!
# Block summaries

The structure of an accepted definition: its connections, its slots with the
arguments in the order of the message, and the warnings that were tolerated.
-/

namespace EditorBlocks

structure Summary where
  definition : Definition
  warnings : Violations

/-- A token as it can be told from its neighbours: texts stand in quotes. -/
def Template.Token.shown : Template.Token → String
  | .text s => Text.quoted s
  | .escape => "%%"
  | .placeholder n => "%" ++ toString n
  | .oversized digits => "%" ++ digits

namespace Slot

def shownTokens (slot : Slot) : List String := slot.tokens.map Template.Token.shown

def summaryJson (slot : Slot) : Json :=
  .object ([("index", .ofNat slot.index.val), ("message", .string slot.message),
    ("tokens", .ofStrings slot.shownTokens),
    ("arguments", .list (slot.inMessageOrder.map fun a =>
      .object [("name", .string a.name), ("kind", .string a.kind.name)])),
    ("implicit_dummy", .bool slot.impliesDummy)] ++
    (slot.align.map fun a => ("last_dummy_align", Json.string a.name)).toList)

def summaryLines (slot : Slot) : List String :=
  ["", "  " ++ messageKey slot.index ++ ": " ++ Text.quoted slot.message,
    "    Tokens: " ++ " ".intercalate slot.shownTokens] ++
  (slot.inMessageOrder.zipIdx.map fun (a, i) =>
    "    " ++ toString (i + 1) ++ ". " ++ a.name ++ " (" ++ a.kind.name ++ ")") ++
  (if slot.impliesDummy then
    ["    Trailing dummy input, aligned " ++ (slot.align.getD .left).name]
  else [])

end Slot

namespace Summary

/-- A part that a definition need not have. -/
def optional {α β : Type} (x : Option α) (f : α → β) : List β := (x.map f).toList

def extensions (s : Summary) : List String := s.definition.extensions.getD []

def toJson (s : Summary) : Json :=
  let d := s.definition
  let check := fun (key : String) (c : ConnectionCheck) => (key, Json.string c.text)
  .object ([("type", .string d.type), ("kind", .string d.connections.name)] ++
    optional d.connections.output? (check "output") ++
    optional d.connections.previous? (check "previous_statement") ++
    optional d.connections.next? (check "next_statement") ++
    [("generator", .string d.signature.text), ("slots", .list (d.slots.map Slot.summaryJson))] ++
    (if s.extensions.isEmpty then [] else [("extensions", .ofStrings s.extensions)]) ++
    optional d.mutator (fun m => ("mutator", .string m)) ++
    (if s.warnings.isEmpty then [] else [("warnings", .list (s.warnings.map Violation.toJson))]))

def lines (s : Summary) : List String :=
  let d := s.definition
  let check := fun (title : String) (c : ConnectionCheck) => "  " ++ title ++ ": " ++ c.text
  ["Block: " ++ d.type ++ " (" ++ d.connections.name ++ " block)"] ++
    optional d.connections.output? (check "Output") ++
    optional d.connections.previous? (check "Previous statement") ++
    optional d.connections.next? (check "Next statement") ++
    ["  Generator returns: " ++ d.signature.text] ++
    optional d.mutator (fun m => "  Mutator: " ++ m) ++
    (if s.extensions.isEmpty then [] else ["  Extensions: " ++ ", ".intercalate s.extensions]) ++
    d.slots.flatMap Slot.summaryLines ++
    (if s.warnings.isEmpty then []
    else ["", "  Warnings:"] ++ s.warnings.map fun v => "    " ++ v.line)

/-- A summary in a format. -/
def write (format : OutputFormat) (s : Summary) : String :=
  match format with
  | .human => String.join (s.lines.map (· ++ "\n"))
  | _ => format.write s.toJson

end Summary

end EditorBlocks
