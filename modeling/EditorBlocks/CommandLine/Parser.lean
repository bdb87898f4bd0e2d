import EditorBlocks.CommandLine.Grammar

/-!
# Reading command lines

Words are read one after the other.  A flag that takes a value waits for it, so
that its value is checked only when the next flag comes, or at the end of the
words of its command.  Behind two dashes there are only arguments.
-/

namespace EditorBlocks.CommandLine

/-- What may be set outside of the line. -/
abbrev Environment := List (String × String)

/-- The flag or argument whose values come next. -/
inductive Pending where
  | flag (f : Flag) (rule : ValueRule) (values : List String)
  | argument (a : Argument) (values : List String)

structure Progress where
  given : Given
  pending : Option Pending
  /-- The next word is the value of a flag. -/
  awaitsValue : Bool
  /-- The arguments that are still to come. -/
  arguments : List Argument
  /-- Two dashes came. -/
  onlyArguments : Bool

namespace Progress

def start (g : Grammar) : Progress := ⟨.nothing, none, false, g.arguments, false⟩

end Progress

/-- A natural number below `2 ^ 64`, with or without a plus sign. -/
def number? (text : String) : Option Nat :=
  let digits := match text.toList with
    | '+' :: rest => rest
    | chars => chars
  if digits.isEmpty || !digits.all Char.isDigit then none
  else
    let n := digits.foldl (fun n c => 10 * n + (c.toNat - '0'.toNat)) 0
    if n < 0x10000000000000000 then some n else none

def checkValue (name : String) (rule : ValueRule) (value : String) : Except Stop Unit :=
  match rule with
  | .path => if value.isEmpty then .error (.valueInvalid name value) else .ok ()
  | .number => if (number? value).isNone then .error (.valueMalformed name value) else .ok ()
  | .oneOf names => if names.contains value then .ok () else .error (.valueInvalid name value)

def checkValues (name : String) (rule : ValueRule) (values : List String) : Except Stop Unit :=
  values.forM (checkValue name rule)

/-- How far flags count. -/
def countLimit : Nat := 255

namespace Given

def addValues (g : Given) (name : String) (values : List String) : Given :=
  { g with
    values := (name, g.valuesOf name ++ values) :: g.values.filter fun v => v.1 ≠ name }

def addCount (g : Given) (name : String) : Given :=
  { g with
    counts := (name, min (g.count name + 1) countLimit) :: g.counts.filter fun c => c.1 ≠ name }

end Given

/-- Takes a value for a flag, which must not have one yet. -/
def takeValue (given : Given) (name : String) (rule : ValueRule) (values : List String) :
    Except Stop Given := do
  if values.isEmpty then throw (.valueInvalid name "")
  if given.has name then throw (.conflict name name)
  checkValues name rule values
  return given.addValues name values

/-- Takes the values that were waited for. -/
def Progress.settle (p : Progress) : Except Stop Progress := do
  match p.pending with
  | none => return p
  | some (.flag f rule values) =>
    return { p with given := ← takeValue p.given f.name rule values, pending := none }
  | some (.argument a values) =>
    checkValues a.name a.rule values
    return { p with given := p.given.addValues a.name values, pending := none }

/-- A flag without a value. -/
def Progress.flag (p : Progress) (names : List String) (f : Flag) : Except Stop Progress := do
  let p := { ← p.settle with awaitsValue := false }
  match f.action with
  | .help => throw .help
  | .version => throw (.version names)
  | .count => return { p with given := p.given.addCount f.name }
  | .present | .value _ =>
    if p.given.has f.name then throw (.conflict f.name f.name)
    return { p with given := { p.given with present := f.name :: p.given.present } }

/-- A flag with a value that stands in the same word, or else in the next one. -/
def Progress.flagValue (p : Progress) (f : Flag) (rule : ValueRule) (value : Option String) :
    Except Stop Progress := do
  let p ← p.settle
  match value with
  | some value =>
    return { p with given := ← takeValue p.given f.name rule [value], awaitsValue := false }
  | none => return { p with pending := some (.flag f rule []), awaitsValue := true }

/-- A word such as `--name` or `--name=value`, without its dashes. -/
def Progress.long (p : Progress) (g : Grammar) (names : List String) (word : String) :
    Except Stop Progress :=
  let name := String.ofList (word.toList.takeWhile (· ≠ '='))
  let value := match word.toList.dropWhile (· ≠ '=') with
    | '=' :: rest => some (String.ofList rest)
    | _ => none
  match g.flag? name with
  | none => .error (.argumentUnknown ("--" ++ name))
  | some f =>
    match f.action, value with
    | .value rule, value => p.flagValue f rule value
    | _, some value => .error (.valueUnneeded f.name value)
    | _, none => p.flag names f

/-- The letters of a word such as `-abc`: flags, of which the last may have a
value behind it. -/
def Progress.shorts (p : Progress) (g : Grammar) (names : List String) :
    List Char → Except Stop Progress
  | [] => .ok p
  | c :: rest =>
    match g.shortFlag? c with
    | none => .error (.argumentUnknown ("-" ++ c.toString))
    | some f =>
      match f.action with
      | .value rule =>
        p.flagValue f rule <|
          match rest with
          | [] => none
          | '=' :: value => some (String.ofList value)
          | value => some (String.ofList value)
      | _ => do (← p.flag names f).shorts g names rest

/-- The word that asks for help on the command whose names come next. -/
def helpWord : String := "help"

/-- Whether a command with subcommands can go on with a word. -/
def leadsOn (g : Grammar) (word : String) : Bool :=
  word = helpWord || (g.subcommand? word).isSome

/-- A word that is no argument of the command. -/
def stray (g : Grammar) (onlyArguments : Bool) (word : String) : Stop :=
  if g.subcommands.isEmpty || (onlyArguments && leadsOn g word) then .argumentUnknown word
  else .subcommandUnknown word

/-- A word that is an argument. -/
def Progress.argument (p : Progress) (g : Grammar) (word : String) : Except Stop Progress :=
  match p.arguments with
  | [] => .error (stray g p.onlyArguments word)
  | a :: rest =>
    match a.many, p.pending with
    | true, some (.argument b values) =>
      if a = b then .ok { p with pending := some (.argument a (values ++ [word])) }
      else started a rest
    | _, _ => started a rest
where
  started (a : Argument) (rest : List Argument) : Except Stop Progress := do
    let p ← p.settle
    return { p with
      pending := some (.argument a [word])
      arguments := if a.many then p.arguments else rest
      awaitsValue := false }

/-- The next word of a command, when it names no subcommand. -/
def Progress.word (p : Progress) (g : Grammar) (names : List String) (word : String) :
    Except Stop Progress :=
  if p.onlyArguments then p.argument g word
  else
    match word.toList with
    | ['-', '-'] => .ok { p with onlyArguments := true }
    | '-' :: '-' :: name => p.long g names (String.ofList name)
    | '-' :: c :: letters => p.shorts g names (c :: letters)
    | _ =>
      match p.awaitsValue, p.pending with
      | true, some (.flag f rule values) =>
        .ok { p with pending := some (.flag f rule (values ++ [word])), awaitsValue := false }
      | _, _ => p.argument g word

/-- The first flag that excludes another one that is given too. -/
def exclusion? (g : Grammar) (given : Given) : Option Stop :=
  g.flags.findSome? fun f =>
    match f.excludes with
    | some other =>
      if given.has f.name && given.has other then some (.conflict f.name other) else none
    | none => none

/-- The values that variables set for flags that were not given. -/
def fromEnvironment (g : Grammar) (environment : Environment) (given : Given) :
    Except Stop (List String) :=
  g.flags.filterMapM fun f =>
    match f.action, f.setBy.bind fun name => environment.lookup name with
    | .value rule, some value =>
      if given.has f.name then pure none
      else do
        checkValue f.name rule value
        return some f.name
    | _, _ => pure none

/-- The end of the words of a command. -/
def Progress.finish (p : Progress) (g : Grammar) (environment : Environment)
    (hasSubcommand : Bool) : Except Stop Given := do
  let p ← p.settle
  let set ← fromEnvironment g environment p.given
  if !g.subcommands.isEmpty && !hasSubcommand then
    throw (if p.given.isEmpty && set.isEmpty then .nothingGiven else .subcommandMissing)
  if let some stop := exclusion? g p.given then throw stop
  if let some a := g.arguments.find? fun a => !p.given.has a.name then
    throw (.argumentMissing a.name)
  return p.given

/-- Whether a word may name a subcommand. -/
def Progress.mayEnter (p : Progress) : Bool :=
  !p.onlyArguments && !p.awaitsValue

/-- The names after the word `help`, which have to lead to a command. -/
def helpOn (g : Grammar) : List String → Stop
  | [] => .help
  | name :: rest =>
    match g.subcommand? name with
    | some sub => helpOn sub rest
    | none =>
      if name = helpWord && !g.subcommands.isEmpty && rest.isEmpty then .help
      else .subcommandUnknown (if name = helpWord then rest.headD name else name)

/-- Reads the words of a command; `names` lead to it. -/
def readWords (environment : Environment) (g : Grammar) (names : List String) (p : Progress) :
    List String → Except Stop Line
  | [] => do return ⟨names, [← p.finish g environment false]⟩
  | word :: rest => do
    if p.mayEnter then
      if word = helpWord && !g.subcommands.isEmpty then throw (helpOn g rest)
      match g.subcommand? word with
      | some sub =>
        let line ← readWords environment sub (names ++ [word]) (.start sub) rest
        let given ← p.finish g environment true
        return { line with givens := given :: line.givens }
      | none => readWords environment g names (← p.word g names word) rest
    else readWords environment g names (← p.word g names word) rest

/-- Reads the words after the name of a program. -/
def read (environment : Environment) (g : Grammar) (words : List String) : Except Stop Line :=
  readWords environment g [g.name] (.start g) words

end EditorBlocks.CommandLine
