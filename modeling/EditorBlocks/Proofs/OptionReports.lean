import EditorBlocks.Proofs.KeptRules
import EditorBlocks.Proofs.OrderedReports
import EditorBlocks.Proofs.Places
import EditorBlocks.Proofs.RepeatedKeys

/-!
# What the options of a dropdown are told

Two things can be wrong with an entry of a list of options: its form, and that it
stores what an earlier entry stores.  They have nothing to do with each other.  An
entry that is no proper option may store a string all the same, and then it is
compared with the others.
-/

namespace EditorBlocks

/-! ## Proper options -/

namespace Dropdown

end Dropdown

namespace Validation

open Dropdown Schema Violations

/-! ## What entries store -/

section Entries

variable {mode : Mode} {options : List Json} {position : Nat} {item : Json}

/-- What an entry is told, in order. -/
def optionFindings (mode : Mode) (options : List Json) (position : Nat) (item : Json) :
    List Finding :=
  (if (Choice.ofJson? item).isNone then [.malformedOption item] else []) ++
    if mode.checksRules then
      ((earlier? (options.map optionValue?) position).map .repeatedOption).toList
    else []

theorem checkOption_eq (here : Context) :
    checkOption here options position item =
      (optionFindings here.mode options position item).map
        (·.violation (here.path ++ [.index position])) := by
  simp only [checkOption, optionFindings, List.map_append]
  congr 1
  · split
    · rfl
    · rfl
  · split
    · cases earlier? (options.map optionValue?) position with
      | none => rfl
      | some first => rfl
    · rfl

/-- To tell whether an entry stores something again it is enough to go over the entries
before it once. -/
theorem checkOption_eq_pass (here : Context) (hitem : options[position]? = some item) :
    checkOption here options position item =
      ((if (Choice.ofJson? item).isNone then [Finding.malformedOption item] else []) ++
        if here.mode.checksRules then
          (((optionValue? item).bind fun s =>
            (Pass.ofKeys ((options.take position).map optionValue?)).seen.lookup s).map
              Finding.repeatedOption).toList
        else []).map fun f => f.violation (here.path ++ [.index position]) := by
  have hkey : (options.map optionValue?)[position]?.join = optionValue? item := by
    rw [List.getElem?_map, hitem]
    rfl
  rw [checkOption_eq, optionFindings, Pass.earlier?_eq_lookup, hkey, List.map_take]

end Entries

section Lists

variable {mode : Mode} {options : List Json}

end Lists

end Validation

end EditorBlocks
