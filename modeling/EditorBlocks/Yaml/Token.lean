/-!
# Tokens of YAML

The indicators, scalars and block boundaries that a YAML text consists of.  Tags
are octets, because escapes in them need not encode characters.
-/

namespace EditorBlocks.Yaml

/-- How a scalar is written. -/
inductive Style where
  | plain
  | single
  | double
  | literal
  | folded
deriving DecidableEq, Repr

def Style.isPlain (style : Style) : Bool := style = .plain

inductive Token where
  | version (major minor : Nat)
  | tagHandle (handle : String) (expansion : List UInt8)
  | documentStart
  | documentEnd
  | sequenceStart
  | mappingStart
  | blockEnd
  | listStart
  | listEnd
  | objectStart
  | objectEnd
  /-- The dash before an entry of a block sequence. -/
  | entry
  /-- The comma between entries of a flow collection. -/
  | comma
  | key
  | value
  | alias (name : String)
  | anchor (name : String)
  | tag (handle : String) (suffix : List UInt8)
  | scalar (text : String) (style : Style)
deriving DecidableEq, Repr

end EditorBlocks.Yaml
