import EditorBlocks.CommandLine.Invocation

/-!
# What the environment has to do with a line

A command line is read together with the environment, where the values of some flags
can be set.  Only the variables of these flags are looked up, so environments that
agree on them make no difference to what a line asks for.
-/

namespace EditorBlocks

namespace CommandLine

mutual

/-- The variables that set flags of a command, or of one below it. -/
def Grammar.flagVariables : Grammar → List String
  | .command _ flags _ subcommands => flags.filterMap Flag.setBy ++ flagVariablesOf subcommands

def Grammar.flagVariablesOf : List Grammar → List String
  | [] => []
  | g :: rest => g.flagVariables ++ flagVariablesOf rest

end

namespace Grammar

theorem flagVariablesOf_eq_flatMap (grammars : List Grammar) :
    flagVariablesOf grammars = grammars.flatMap flagVariables := by
  induction grammars with
  | nil => rfl
  | cons g rest ih => rw [flagVariablesOf, ih, List.flatMap_cons]

theorem flagVariables_subcommand? {g sub : Grammar} {word : String}
    (hsub : g.subcommand? word = some sub) : sub.flagVariables ⊆ g.flagVariables := by
  have hmem : sub ∈ g.subcommands := List.mem_of_find?_eq_some hsub
  cases g with
  | command name flags arguments subcommands =>
      intro name hset
      rw [flagVariables, flagVariablesOf_eq_flatMap]
      exact List.mem_append_right _ (List.mem_flatMap.2 ⟨sub, hmem, hset⟩)

theorem mem_flagVariables_of_setBy {g : Grammar} {f : Flag} {name : String} (hf : f ∈ g.flags)
    (hset : f.setBy = some name) : name ∈ g.flagVariables := by
  cases g with
  | command name flags arguments subcommands =>
      rw [flagVariables]
      exact List.mem_append_left _ (List.mem_filterMap.2 ⟨f, hf, hset⟩)

end Grammar

section Agree

variable {environment other : Environment}

theorem fromEnvironment_congr {g : Grammar} (given : Given)
    (hagree : ∀ name ∈ g.flagVariables, environment.lookup name = other.lookup name) :
    fromEnvironment g environment given = fromEnvironment g other given := by
  unfold fromEnvironment
  have hflags : ∀ f ∈ g.flags, (f.setBy.bind fun name => environment.lookup name) =
      f.setBy.bind fun name => other.lookup name := by
    intro f hf
    cases hset : f.setBy with
    | none => rfl
    | some name => exact hagree name (g.mem_flagVariables_of_setBy hf hset)
  generalize g.flags = flags at hflags
  induction flags with
  | nil => rfl
  | cons f rest ih =>
      obtain ⟨hf, hrest⟩ := List.forall_mem_cons.1 hflags
      rw [List.filterMapM_cons, List.filterMapM_cons, ih hrest, hf]

theorem finish_congr {g : Grammar} (p : Progress) (hasSubcommand : Bool)
    (hagree : ∀ name ∈ g.flagVariables, environment.lookup name = other.lookup name) :
    p.finish g environment hasSubcommand = p.finish g other hasSubcommand := by
  simp only [Progress.finish, fromEnvironment_congr _ hagree]

theorem readWords_congr {g : Grammar} (names : List String) (p : Progress) (words : List String)
    (hagree : ∀ name ∈ g.flagVariables, environment.lookup name = other.lookup name) :
    readWords environment g names p words = readWords other g names p words := by
  induction words generalizing g names p with
  | nil => simp only [readWords, finish_congr p false hagree]
  | cons word rest ih =>
      rw [readWords, readWords]
      cases hsub : g.subcommand? word with
      | none => simp only [ih _ _ hagree]
      | some sub =>
          have hbelow : ∀ name ∈ sub.flagVariables, environment.lookup name = other.lookup name :=
            fun name hname => hagree name (Grammar.flagVariables_subcommand? hsub hname)
          simp only [ih _ _ hagree, ih _ _ hbelow, finish_congr p true hagree]

end Agree

end CommandLine

namespace Invocation

/-- Of the environment a line depends on the variable for the settings file only. -/
theorem read_congr {environment other : CommandLine.Environment}
    (hagree : environment.lookup settingsVariable = other.lookup settingsVariable)
    (words : List String) : read environment words = read other words := by
  have hvariables : ∀ name ∈ grammar.flagVariables, name = settingsVariable := by
    decide +kernel
  have hlookup : ∀ name ∈ grammar.flagVariables, environment.lookup name = other.lookup name :=
    fun name hname => hvariables name hname ▸ hagree
  have hline : ∀ line, ofLine? environment line = ofLine? other line := by
    intro line
    simp only [ofLine?, hagree]
  simp only [read, CommandLine.read, CommandLine.readWords_congr _ _ words hlookup, hline]

end Invocation

end EditorBlocks
