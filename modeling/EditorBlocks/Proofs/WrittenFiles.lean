import EditorBlocks.Command.Log

/-!
# Files that are written

Writing a file puts it at the place that its path leads to, and leaves everything
else as it was.  The way to a place leads through directories, none of which is the
place of the file; so afterwards the path leads there again, and the bytes are read
back.  Making directories changes nothing that was there before, even where it fails
half-way.  Writing at the end of a file changes this file alone, and makes it longer.
-/

namespace EditorBlocks

/-! ## Steps that may fail -/

section Steps

variable {ε α β : Type}

theorem exists_of_bind_eq_ok {x : Except ε α} {f : α → Except ε β} {b : β}
    (hbind : x >>= f = .ok b) : ∃ a, x = .ok a ∧ f a = .ok b := by
  cases x with
  | error e => contradiction
  | ok a => exact ⟨a, rfl, hbind⟩

theorem exists_of_mapError_eq_ok {ε' : Type} {f : ε → ε'} {x : Except ε α} {a : α}
    (hmap : x.mapError f = .ok a) : x = .ok a := by
  cases x with
  | error e => contradiction
  | ok b => exact congrArg Except.ok (Except.ok.inj hmap)

theorem ok_bind (a : α) (f : α → Except ε β) : (Except.ok a >>= f) = f a := rfl

theorem mapError_ok {ε' : Type} (f : ε → ε') (a : α) : (Except.ok a).mapError f = .ok a := rfl

/-- Steps that succeed in one way also do as part of a walk. -/
theorem foldlM_of_step {f g : β → α → Except ε β}
    (hstep : ∀ b x c, f b x = .ok c → g b x = .ok c) {xs : List α} {b c : β}
    (hfold : xs.foldlM f b = .ok c) : xs.foldlM g b = .ok c := by
  induction xs generalizing b with
  | nil => exact hfold
  | cons x rest ih =>
      rw [List.foldlM_cons] at hfold ⊢
      obtain ⟨next, hnext, hrest⟩ := exists_of_bind_eq_ok hfold
      rw [hstep b x next hnext]
      exact ih hrest

end Steps

namespace Files

variable {files before after : Files} {path : String} {place : Place}

/-! ## Places -/

theorem lookup_filter_ne {entries : List (Place × Entry)} {other : Place} (hne : other ≠ place) :
    (entries.filter (·.1 ≠ place)).lookup other = entries.lookup other := by
  induction entries with
  | nil => rfl
  | cons first rest ih =>
      obtain ⟨here, entry⟩ := first
      by_cases hsame : here = place
      · subst hsame
        rw [List.filter_cons_of_neg (by simp), ih, List.lookup_cons, beq_false_of_ne hne]
      · rw [List.filter_cons_of_pos (by simpa using hsame), List.lookup_cons, List.lookup_cons, ih]

theorem entry?_put (entry : Entry) {other : Place} (hroot : place ≠ []) :
    Files.entry? (files.put place entry) other =
      if other = place then some entry else files.entry? other := by
  cases other with
  | nil =>
      rw [if_neg (Ne.symm hroot)]
      rfl
  | cons name rest =>
      change ((place, entry) :: files.entries.filter (·.1 ≠ place)).lookup (name :: rest) = _
      rw [List.lookup_cons]
      by_cases hsame : name :: rest = place
      · rw [if_pos hsame, hsame, beq_self_eq_true]
      · rw [if_neg hsame, beq_false_of_ne hsame, lookup_filter_ne hsame]
        rfl

theorem ne_root_of_not_directory (hplace : files.entry? place ≠ some .directory) : place ≠ [] := by
  rintro rfl
  exact hplace rfl

/-! ## The way to a place -/

/-- Every directory is still there, and the working directory is the same. -/
structure LeadsOn (before after : Files) : Prop where
  workingDirectory : after.workingDirectory = before.workingDirectory
  directories : ∀ place, before.entry? place = some .directory →
    after.entry? place = some .directory

namespace LeadsOn

theorem step (hleads : LeadsOn before after) {name : String} {next : Place}
    (hstep : before.step place name = .ok next) : after.step place name = .ok next := by
  unfold Files.step at hstep ⊢
  cases hentry : before.entry? place with
  | none =>
      rw [hentry] at hstep
      contradiction
  | some entry =>
      rw [hentry] at hstep
      cases entry with
      | file bytes => contradiction
      | directory =>
          rw [hleads.directories place hentry]
          exact hstep

theorem locate (hleads : LeadsOn before after) (hlocate : before.locate path = .ok place) :
    after.locate path = .ok place := by
  obtain ⟨names, hnames, hwalk⟩ := exists_of_bind_eq_ok hlocate
  have hstart : after.start path = before.start path := by
    rw [start, start, hleads.workingDirectory]
  rw [Files.locate, hnames, hstart]
  exact foldlM_of_step (fun _ _ _ => hleads.step) hwalk

/-- A file does not stand on the way to its own place. -/
theorem put (hplace : files.entry? place ≠ some .directory) (entry : Entry) :
    LeadsOn files (files.put place entry) := by
  refine ⟨rfl, fun other hother => ?_⟩
  rw [entry?_put entry (ne_root_of_not_directory hplace), if_neg, hother]
  rintro rfl
  exact hplace hother

end LeadsOn

/-! ## Writing -/

theorem write_of_locate {bytes : List UInt8}
    (hbare : String.ofList (path.toList.reverse.dropWhile (· = '/')).reverse = path)
    (hlocate : files.locate path = .ok place) :
    files.write path bytes =
      if files.entry? place = some .directory then .error .isADirectory
      else .ok (files.put place (.file bytes)) := by
  simp only [write, hbare, hlocate, bind, Except.bind, ne_eq, not_true_eq_false, if_false]
  split
  next hdirectory => exact (if_pos hdirectory).symm
  next hother => exact (if_neg hother).symm

theorem write_eq_ok {bytes : List UInt8} (hwrite : files.write path bytes = .ok after) :
    ∃ place, files.locate path = .ok place ∧ files.entry? place ≠ some .directory ∧
      after = files.put place (.file bytes) := by
  obtain ⟨place, hlocate, hrest⟩ := exists_of_bind_eq_ok hwrite
  by_cases hbare : String.ofList (path.toList.reverse.dropWhile (· = '/')).reverse = path
  · rw [hbare] at hlocate
    rw [write_of_locate hbare hlocate] at hwrite
    split at hwrite
    next => cases hwrite
    next hplace => exact ⟨place, hlocate, hplace, (Except.ok.inj hwrite).symm⟩
  · simp only [ne_eq, hbare, not_false_eq_true, if_true] at hrest
    cases hrest

theorem read_of_entry {bytes : List UInt8} (hlocate : files.locate path = .ok place)
    (hentry : files.entry? place = some (.file bytes)) : files.read path = .ok bytes := by
  simp only [read, hlocate, bind, Except.bind, hentry]
  rfl

theorem has_of_entry {entry : Entry} (hlocate : files.locate path = .ok place)
    (hentry : files.entry? place = some entry) : files.has path = true := by
  simp only [has, hlocate, hentry, Option.isSome_some]

/-- A file that was written is there, and is read back. -/
theorem read_of_write {bytes : List UInt8} (hwrite : files.write path bytes = .ok after) :
    after.has path = true ∧ after.read path = .ok bytes := by
  obtain ⟨place, hlocate, hplace, rfl⟩ := write_eq_ok hwrite
  have hthere := (LeadsOn.put hplace (.file bytes)).locate hlocate
  have hentry : Files.entry? (files.put place (.file bytes)) place = some (.file bytes) := by
    rw [entry?_put _ (ne_root_of_not_directory hplace), if_pos rfl]
  exact ⟨has_of_entry hthere hentry, read_of_entry hthere hentry⟩

/-! ## Making directories -/

/-- What an operation leaves of the files, whether it succeeds or halts. -/
def left : Except Halt Files → Files
  | .ok files => files
  | .error halt => halt.files

/-- Directories were made where there was nothing, and nothing else was done. -/
structure AddsDirectories (before after : Files) : Prop where
  workingDirectory : after.workingDirectory = before.workingDirectory
  entries : ∀ place, after.entry? place = before.entry? place ∨
    before.entry? place = none ∧ after.entry? place = some .directory

namespace AddsDirectories

theorem refl (files : Files) : AddsDirectories files files := ⟨rfl, fun _ => .inl rfl⟩

theorem trans {last : Files} (hfirst : AddsDirectories before after)
    (hsecond : AddsDirectories after last) : AddsDirectories before last := by
  refine ⟨hsecond.workingDirectory.trans hfirst.workingDirectory, fun place => ?_⟩
  rcases hsecond.entries place with hsame | ⟨hnone, hmade⟩
  · rw [hsame]
    exact hfirst.entries place
  · rcases hfirst.entries place with hsame | ⟨-, hmade'⟩
    · exact .inr ⟨hsame.symm.trans hnone, hmade⟩
    · exact absurd (hnone.symm.trans hmade') nofun

theorem put (hnone : files.entry? place = none) :
    AddsDirectories files (files.put place .directory) := by
  have hplace : files.entry? place ≠ some .directory := by simp [hnone]
  refine ⟨rfl, fun other => ?_⟩
  rw [entry?_put _ (ne_root_of_not_directory hplace)]
  split
  next hsame => exact .inr ⟨hsame ▸ hnone, rfl⟩
  next => exact .inl rfl

/-- One name of a walk, which it may halt at. -/
theorem enter (position : Files × Place) (name : String) :
    AddsDirectories position.1 (left ((Files.enter position name).map Prod.fst)) := by
  obtain ⟨files, place⟩ := position
  simp only [Files.enter]
  cases files.step place name with
  | error fault => exact refl files
  | ok next =>
      rw [mapError_ok, ok_bind]
      split
      next hnone => exact put hnone
      next => exact refl files

theorem walk (names : List String) (position : Files × Place) :
    AddsDirectories position.1 (left ((names.foldlM Files.enter position).map Prod.fst)) := by
  induction names generalizing position with
  | nil => exact refl position.1
  | cons name rest ih =>
      rw [List.foldlM_cons]
      have hfirst := enter position name
      cases henter : Files.enter position name with
      | error halt =>
          rw [henter] at hfirst
          exact hfirst
      | ok next =>
          rw [henter] at hfirst
          exact hfirst.trans (ih next)

theorem createDirectory (files : Files) (path : String) :
    AddsDirectories files (left (files.createDirectory path)) := by
  simp only [Files.createDirectory]
  cases names path with
  | error fault => exact refl files
  | ok names =>
      have hwalk := walk names (files, files.start path)
      rw [mapError_ok, ok_bind]
      cases hmade : names.foldlM Files.enter (files, files.start path) with
      | error halt =>
          rw [hmade] at hwalk
          have hsince : (halt.since files).files = halt.files := by
            rw [Halt.since]
            split <;> rfl
          change AddsDirectories files (halt.since files).files
          rw [hsince]
          exact hwalk
      | ok made =>
          rw [hmade] at hwalk
          rw [mapError_ok, ok_bind]
          split <;> exact hwalk

end AddsDirectories

/-! ## Writing at the end -/

/-- All is as before, except that a log file may have grown. -/
structure Grown (log : Option Place) (before after : Files) : Prop where
  workingDirectory : after.workingDirectory = before.workingDirectory
  entries : ∀ place, after.entry? place = before.entry? place ∨
    log = some place ∧ ∃ bytes more, before.entry? place = some (.file bytes) ∧
      after.entry? place = some (.file (bytes ++ more))

namespace Grown

variable {log : Option Place}

theorem refl (files : Files) : Grown log files files := ⟨rfl, fun _ => .inl rfl⟩

theorem trans {last : Files} (hfirst : Grown log before after) (hsecond : Grown log after last) :
    Grown log before last := by
  refine ⟨hsecond.workingDirectory.trans hfirst.workingDirectory, fun place => ?_⟩
  rcases hsecond.entries place with hsame | ⟨hlog, bytes, more, hbytes, hmore⟩
  · rw [hsame]
    exact hfirst.entries place
  · refine .inr ⟨hlog, ?_⟩
    rcases hfirst.entries place with hsame | ⟨-, fewer, between, hfewer, hbetween⟩
    · exact ⟨bytes, more, hsame.symm.trans hbytes, hmore⟩
    · obtain rfl : bytes = fewer ++ between := by
        simpa using hbytes.symm.trans hbetween
      exact ⟨fewer, between ++ more, hfewer, by rw [hmore, List.append_assoc]⟩

theorem append (files : Files) (place : Place) (bytes : List UInt8) :
    Grown (some place) files (files.append place bytes) := by
  unfold Files.append
  split
  next before hentry =>
    have hplace : files.entry? place ≠ some .directory := by simp [hentry]
    refine ⟨rfl, fun other => ?_⟩
    rw [entry?_put _ (ne_root_of_not_directory hplace)]
    split
    next hsame => exact .inr ⟨congrArg some hsame.symm, before, bytes, hsame ▸ hentry, rfl⟩
    next => exact .inl rfl
  next => exact refl files

theorem entry?_eq (hgrown : Grown log before after) (hother : log ≠ some place) :
    after.entry? place = before.entry? place :=
  (hgrown.entries place).resolve_right fun hlogged => hother hlogged.1

theorem isSome_entry? (hgrown : Grown log before after) (place : Place) :
    (after.entry? place).isSome = (before.entry? place).isSome := by
  rcases hgrown.entries place with hsame | ⟨-, bytes, more, hbytes, hmore⟩
  · rw [hsame]
  · rw [hbytes, hmore]
    rfl

theorem step_eq (hgrown : Grown log before after) (place : Place) (name : String) :
    after.step place name = before.step place name := by
  rcases hgrown.entries place with hsame | ⟨-, bytes, more, hbytes, hmore⟩
  · simp only [step, hsame]
  · simp only [step, hbytes, hmore]

/-- Every path leads where it led. -/
theorem locate_eq (hgrown : Grown log before after) (path : String) :
    after.locate path = before.locate path := by
  have hstep : after.step = before.step := by
    funext place name
    exact hgrown.step_eq place name
  have hstart : after.start path = before.start path := by
    rw [start, start, hgrown.workingDirectory]
  rw [locate, locate, hstep, hstart]

theorem has_eq (hgrown : Grown log before after) (path : String) :
    after.has path = before.has path := by
  rw [has, has, hgrown.locate_eq]
  cases before.locate path with
  | error fault => rfl
  | ok place => exact hgrown.isSome_entry? place

/-- Only the log file itself is read differently. -/
theorem read_eq (hgrown : Grown log before after)
    (hother : ∀ place, before.locate path = .ok place → log ≠ some place) :
    after.read path = before.read path := by
  rw [read, read, hgrown.locate_eq]
  cases hlocate : before.locate path with
  | error fault => rfl
  | ok place =>
      simp only [bind, Except.bind]
      rw [hgrown.entry?_eq (hother place hlocate)]

end Grown

/-! ## Keeping what is there -/

/-- Everything that was there is still there as it was, except that a log file may
have grown. -/
structure Keeps (log : Option Place) (before after : Files) : Prop where
  workingDirectory : after.workingDirectory = before.workingDirectory
  entries : ∀ place entry, before.entry? place = some entry →
    after.entry? place = some entry ∨
    log = some place ∧ ∃ bytes more, entry = .file bytes ∧
      after.entry? place = some (.file (bytes ++ more))

namespace Keeps

variable {log : Option Place}

theorem of_grown (hgrown : Grown log before after) : Keeps log before after := by
  refine ⟨hgrown.workingDirectory, fun place entry hentry => ?_⟩
  rcases hgrown.entries place with hsame | ⟨hlog, bytes, more, hbytes, hmore⟩
  · exact .inl (hsame.trans hentry)
  · exact .inr ⟨hlog, bytes, more, Option.some.inj (hentry.symm.trans hbytes), hmore⟩

theorem refl (files : Files) : Keeps log files files := of_grown (.refl files)

theorem trans {last : Files} (hfirst : Keeps log before after) (hsecond : Keeps log after last) :
    Keeps log before last := by
  refine ⟨hsecond.workingDirectory.trans hfirst.workingDirectory, fun place entry hentry => ?_⟩
  rcases hfirst.entries place entry hentry with hsame | ⟨hlog, bytes, more, rfl, hmore⟩
  · exact hsecond.entries place entry hsame
  · refine .inr ⟨hlog, bytes, ?_⟩
    rcases hsecond.entries place _ hmore with hlast | ⟨-, longer, most, hlonger, hlast⟩
    · exact ⟨more, rfl, hlast⟩
    · obtain rfl : bytes ++ more = longer := by simpa using hlonger
      exact ⟨more ++ most, rfl, by rw [hlast, List.append_assoc]⟩

theorem of_addsDirectories (hadds : AddsDirectories before after) : Keeps log before after := by
  refine ⟨hadds.workingDirectory, fun place entry hentry => .inl ?_⟩
  rcases hadds.entries place with hsame | ⟨hnone, -⟩
  · exact hsame.trans hentry
  · exact absurd (hnone.symm.trans hentry) nofun

theorem directory (hkeeps : Keeps log before after)
    (hdirectory : before.entry? place = some .directory) :
    after.entry? place = some .directory :=
  (hkeeps.entries place .directory hdirectory).resolve_right nofun

theorem start_directory (hkeeps : Keeps log before after)
    (hthere : before.entry? before.workingDirectory = some .directory) :
    after.entry? after.workingDirectory = some .directory :=
  hkeeps.workingDirectory ▸ hkeeps.directory hthere

theorem put (hnone : files.entry? place = none) (entry : Entry) :
    Keeps log files (files.put place entry) := by
  have hplace : files.entry? place ≠ some .directory := by simp [hnone]
  refine ⟨rfl, fun other found hfound => .inl ?_⟩
  rw [entry?_put entry (ne_root_of_not_directory hplace), if_neg, hfound]
  rintro rfl
  exact absurd (hnone.symm.trans hfound) nofun

/-- The same entry at the same place makes no difference. -/
theorem put_both (hkeeps : Keeps log before after) (hroot : place ≠ []) (entry : Entry) :
    Keeps log (before.put place entry) (after.put place entry) := by
  refine ⟨hkeeps.workingDirectory, fun other found hfound => ?_⟩
  rw [entry?_put _ hroot] at hfound ⊢
  by_cases hsame : other = place
  · rw [if_pos hsame] at hfound ⊢
    exact .inl hfound
  · rw [if_neg hsame] at hfound ⊢
    exact hkeeps.entries other found hfound

/-- A file is opened as it is, or there is an empty one where there was nothing. -/
theorem openEnd (hopen : files.openEnd path = .ok (after, place)) : Keeps log files after := by
  obtain ⟨there, -, hthere⟩ := exists_of_bind_eq_ok hopen
  split at hthere
  next hnone =>
    obtain ⟨rfl, -⟩ := Prod.mk.inj (Except.ok.inj hthere)
    exact put hnone (.file [])
  next => contradiction
  next =>
    obtain ⟨rfl, -⟩ := Prod.mk.inj (Except.ok.inj hthere)
    exact refl files

end Keeps

end Files

end EditorBlocks
