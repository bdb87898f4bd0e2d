/-!
# Parts of a text

A text is cut at every place of a character.  The parts, put together with the
character between them, give the text again.
-/

namespace EditorBlocks.Text

def split (mark : Char) (text : String) : List String :=
  (text.toList.splitOn mark).map String.ofList

/-- No part of a text that is cut at a character holds the character. -/
theorem not_mem_of_mem_splitOn {α : Type} [BEq α] [LawfulBEq α] {mark : α} {xs part : List α}
    (hpart : part ∈ xs.splitOn mark) : mark ∉ part := by
  induction xs generalizing part with
  | nil => simp_all
  | cons x rest ih =>
    rw [List.splitOn_cons_eq_if_modifyHead] at hpart
    split at hpart
    · rcases List.mem_cons.1 hpart with rfl | hrest
      · exact List.not_mem_nil
      · exact ih hrest
    · next hne =>
      cases hparts : rest.splitOn mark with
      | nil => exact absurd hparts (List.splitOn_ne_nil mark rest)
      | cons first others =>
        rw [hparts] at ih hpart
        rcases List.mem_cons.1 hpart with rfl | hrest
        · rw [List.mem_cons, not_or]
          exact ⟨fun heq => hne (by simp [heq]), ih List.mem_cons_self⟩
        · exact ih (List.mem_cons_of_mem _ hrest)

theorem not_mem_of_mem_split {mark : Char} {text part : String} (hpart : part ∈ split mark text) :
    mark ∉ part.toList := by
  obtain ⟨characters, hcharacters, rfl⟩ := List.mem_map.1 hpart
  rw [String.toList_ofList]
  exact not_mem_of_mem_splitOn hcharacters

/-- A text that is put together from lines is cut into these lines exactly when none
of them is cut itself.  Nothing follows the last one. -/
theorem split_join_lines_iff (lines : List String) :
    split '\n' (String.join (lines.map (· ++ "\n"))) = lines ++ [""] ↔
      ∀ line ∈ lines, '\n' ∉ line.toList := by
  constructor
  · intro hsplit line hline
    exact not_mem_of_mem_split (hsplit ▸ List.mem_append_left _ hline)
  · intro hlines
    induction lines with
    | nil => rfl
    | cons line rest ih =>
      obtain ⟨hline, hrest⟩ := List.forall_mem_cons.1 hlines
      have hcut : (String.join ((line :: rest).map (· ++ "\n"))).toList =
          line.toList ++ '\n' :: (String.join (rest.map (· ++ "\n"))).toList := by
        simp
      rw [split, hcut, List.splitOn_append_cons_self_of_not_mem hline, List.map_cons,
        String.ofList_toList, List.cons_append]
      exact congrArg (line :: ·) (ih hrest)

end EditorBlocks.Text
