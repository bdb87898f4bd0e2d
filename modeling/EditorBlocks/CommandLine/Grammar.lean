/-!
# Grammars of command lines

A command takes flags and arguments, or one of several subcommands.  What is
wrong with a line is told by its cause.
-/

namespace EditorBlocks.CommandLine

/-- What the value of a flag or an argument has to be. -/
inductive ValueRule where
  /-- Any text but the empty one. -/
  | path
  /-- A natural number of 64 bits. -/
  | number
  | oneOf (names : List String)
deriving DecidableEq, Repr

inductive Action where
  /-- The flag is there or not. -/
  | present
  /-- The flag counts. -/
  | count
  | value (rule : ValueRule)
  | help
  | version
deriving DecidableEq, Repr

structure Flag where
  name : String
  short : Option Char
  action : Action
  /-- The flag that may not stand beside this one. -/
  excludes : Option String
  /-- What sets it in the environment when the line does not. -/
  setBy : Option String
deriving DecidableEq, Repr

/-- An argument without a flag, which has to be there. -/
structure Argument where
  name : String
  rule : ValueRule
  /-- The argument may have several values. -/
  many : Bool
deriving DecidableEq, Repr

/-- A command, with the grammars of its subcommands.  One that has subcommands
needs one of them. -/
inductive Grammar where
  | command (name : String) (flags : List Flag) (arguments : List Argument)
    (subcommands : List Grammar)
deriving Repr

namespace Grammar

def name : Grammar → String
  | .command name _ _ _ => name

def flags : Grammar → List Flag
  | .command _ flags _ _ => flags

def arguments : Grammar → List Argument
  | .command _ _ arguments _ => arguments

def subcommands : Grammar → List Grammar
  | .command _ _ _ subcommands => subcommands

def subcommand? (g : Grammar) (name : String) : Option Grammar :=
  g.subcommands.find? fun s => s.name = name

def flag? (g : Grammar) (name : String) : Option Flag := g.flags.find? fun f => f.name = name

def shortFlag? (g : Grammar) (c : Char) : Option Flag := g.flags.find? fun f => f.short = some c

end Grammar

/-- Why a line is not carried out. -/
inductive Stop where
  /-- Help was asked for. -/
  | help
  /-- The version was asked for, of the command with these names. -/
  | version (names : List String)
  | nothingGiven
  | subcommandMissing
  | subcommandUnknown (name : String)
  | argumentUnknown (text : String)
  | argumentMissing (name : String)
  | valueInvalid (name value : String)
  /-- A value that is no number. -/
  | valueMalformed (name value : String)
  | valueUnneeded (name value : String)
  /-- Two flags that may not stand together, or one that stands twice. -/
  | conflict (name other : String)
deriving DecidableEq, Repr

def Stop.message : Stop → String
  | .help => "help was asked for"
  | .version _ => "the version was asked for"
  | .nothingGiven => "no arguments were given"
  | .subcommandMissing => "a subcommand is required but was not given"
  | .subcommandUnknown name => "unrecognized subcommand '" ++ name ++ "'"
  | .argumentUnknown text => "unexpected argument '" ++ text ++ "'"
  | .argumentMissing name => "the argument " ++ name ++ " is required but was not given"
  | .valueInvalid name value => "invalid value '" ++ value ++ "' for " ++ name
  | .valueMalformed name value => "invalid number '" ++ value ++ "' for " ++ name
  | .valueUnneeded name value => "unexpected value '" ++ value ++ "' for " ++ name
  | .conflict name other => "the argument " ++ name ++ " cannot be used with " ++ other

/-- What was given to a command. -/
structure Given where
  present : List String
  counts : List (String × Nat)
  values : List (String × List String)
deriving DecidableEq, Repr

namespace Given

def nothing : Given := ⟨[], [], []⟩

def isEmpty (g : Given) : Bool := g.present.isEmpty && g.counts.isEmpty && g.values.isEmpty

def has (g : Given) (name : String) : Bool :=
  g.present.contains name || (g.counts.lookup name).isSome || (g.values.lookup name).isSome

def count (g : Given) (name : String) : Nat := (g.counts.lookup name).getD 0

def value? (g : Given) (name : String) : Option String :=
  (g.values.lookup name).bind List.head?

def valuesOf (g : Given) (name : String) : List String := (g.values.lookup name).getD []

end Given

/-- A command that was given, by the names that lead to it, with what was given
to each command on the way. -/
structure Line where
  names : List String
  givens : List Given
deriving DecidableEq, Repr

end EditorBlocks.CommandLine
