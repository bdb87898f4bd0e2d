import EditorBlocks.Json.Basic

/-!
# Connection checks

The types that a connection point takes: any type, one named type, or any one
of a list of them.  Type names are compared as they are written.
-/

namespace EditorBlocks

inductive ConnectionCheck where
  | any
  | single (name : String)
  | anyOf (names : List String)
deriving DecidableEq, Repr

namespace ConnectionCheck

/-- The names a check lists; a check for any type lists none. -/
def typeNames : ConnectionCheck → List String
  | .any => []
  | .single name => [name]
  | .anyOf names => names

def isRestricted : ConnectionCheck → Bool
  | .any => false
  | _ => true

/-- A value of this type may connect. -/
def accepts : ConnectionCheck → String → Bool
  | .any, _ => true
  | .single name, type => name = type
  | .anyOf names, type => names.contains type

/-- Two connection points fit when either takes any type or some name is on
both lists. -/
def compatible : ConnectionCheck → ConnectionCheck → Bool
  | .any, _ | _, .any => true
  | a, b => a.typeNames.any b.accepts

/-- A null, a type name or a list of type names. -/
def ofJson? : Json → Option ConnectionCheck
  | .null => some .any
  | .string name => some (.single name)
  | .list items => (items.mapM Json.string?).map .anyOf
  | _ => none

def toJson : ConnectionCheck → Json
  | .any => .null
  | .single name => .string name
  | .anyOf names => .ofStrings names

def text : ConnectionCheck → String
  | .any => "any"
  | .single name => name
  | .anyOf names => " | ".intercalate names

end ConnectionCheck

end EditorBlocks
