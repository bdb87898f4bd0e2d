import EditorBlocks.Block

/-!
# Code generators

A generator turns a live block into source text.  That of a value block also
gives the precedence of the outermost operator; that of a statement block gives
the text alone.
-/

namespace EditorBlocks

/-- What a generator returns. -/
inductive Signature where
  | valueWithPrecedence
  | statementOnly
deriving DecidableEq, Repr

namespace Signature

def name : Signature → String
  | .valueWithPrecedence => "value_with_precedence"
  | .statementOnly => "statement_only"

def text : Signature → String
  | .valueWithPrecedence => "(code, precedence)"
  | .statementOnly => "code"

def ofConnections : Connections → Signature
  | .value _ => .valueWithPrecedence
  | .statement .. => .statementOnly

end Signature

def Definition.signature (d : Definition) : Signature := .ofConnections d.connections

/-- A generator for live blocks of a type. -/
inductive Generator (Block : Type) where
  | value (generate : Block → String × Nat)
  | statement (generate : Block → String)

inductive GeneratedCode where
  | value (code : String) (precedence : Nat)
  | statement (code : String)
deriving DecidableEq, Repr

namespace GeneratedCode

def code : GeneratedCode → String
  | .value code _ => code
  | .statement code => code

def precedence? : GeneratedCode → Option Nat
  | .value _ precedence => some precedence
  | .statement _ => none

def toJson : GeneratedCode → Json
  | .value code precedence =>
    .object [("value", .object [("code", .string code), ("precedence", .ofNat precedence)])]
  | .statement code => .object [("statement", .string code)]

end GeneratedCode

namespace Generator

variable {Block : Type}

def signature : Generator Block → Signature
  | .value _ => .valueWithPrecedence
  | .statement _ => .statementOnly

def run : Generator Block → Block → GeneratedCode
  | .value generate, block => .value (generate block).1 (generate block).2
  | .statement generate, block => .statement (generate block)

/-- A generator of the wrong kind for a block. -/
structure Mismatch where
  blockType : String
  expected : Signature
  actual : Signature
deriving DecidableEq, Repr

def Mismatch.message (m : Mismatch) : String :=
  "Block '" ++ m.blockType ++ "' needs a generator returning " ++ m.expected.text ++
    ", got one returning " ++ m.actual.text

/-- A generator and the block it serves. -/
structure Bound (Block : Type) where
  blockType : String
  generator : Generator Block

/-- A generator serves a block only if it returns what the block needs. -/
def bind (d : Definition) (generator : Generator Block) : Except Mismatch (Bound Block) :=
  if d.signature = generator.signature then .ok ⟨d.type, generator⟩
  else .error ⟨d.type, d.signature, generator.signature⟩

end Generator

end EditorBlocks
