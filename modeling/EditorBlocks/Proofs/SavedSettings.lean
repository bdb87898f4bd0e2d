import EditorBlocks.Proofs.EncodedText
import EditorBlocks.Proofs.WrittenFiles
import EditorBlocks.Settings.Read

/-!
# Settings that are saved

Saving and loading both take the format from the extension of the path, in upper or
lower case.  To a path with another extension, or without one, settings are saved in
TOML, but from such a path they are never loaded.  So they come back from where they
were saved exactly when the extension stands for a format, as long as no format loses
anything of them.
-/

namespace EditorBlocks.Settings

open Files

/-! ## Formats of paths -/

namespace Format

/-- The extensions that stand for a format, in lower case. -/
def extensions : Format → List String
  | .toml => ["toml"]
  | .yaml => ["yaml", "yml"]
  | .json => ["json"]

/-- The path has an extension that stands for the format. -/
def StandsIn (format : Format) (path : String) : Prop :=
  ∃ e, Document.extension? path = some e ∧ Text.lowerAscii e ∈ format.extensions

theorem ofPath?_eq_some_iff {path : String} {format : Format} :
    ofPath? path = some format ↔ format.StandsIn path := by
  unfold ofPath? StandsIn
  cases Document.extension? path with
  | none => simp
  | some e =>
      simp only [Option.map_some, Option.some.injEq, exists_eq_left']
      generalize Text.lowerAscii e = word
      -- One case for each extension, and one for every other word.
      split <;> cases format <;> simp_all [extensions]

end Format

/-! ## Reading what was saved -/

/-- The text of a file that is read in a format; the path is for messages only. -/
def readAs (path text : String) : Format → Except LoadError Settings
  | .toml => readToml path text
  | .yaml => readYaml text
  | .json => readJson text

/-- The format loses nothing of the settings. -/
def ReadsBack (s : Settings) (format : Format) : Prop :=
  ∀ path, readAs path (s.write format) format = .ok s

theorem readsBack_toml {s : Settings}
    (hread : ((Toml.read (s.write .toml)).bind fun t => ofSource? t.toValue) = some s) :
    s.ReadsBack .toml := by
  intro path
  change readToml path (s.write .toml) = .ok s
  unfold readToml
  split
  next found hfound => exact congrArg Except.ok (Option.some.inj (hfound.symm.trans hread))
  next hnone => exact absurd (hnone.symm.trans hread) nofun

theorem standard_readsBack : standard.ReadsBack .toml := readsBack_toml (by decide +kernel)

/-- The format in which settings are saved. -/
def Format.forSaving (path : String) : Format := (ofPath? path).getD .toml

section Saved

variable {files after : Files} {path : String} {s : Settings}

/-- A saved file holds the text of the settings. -/
theorem text_of_save (hsave : save files path s = .ok after) :
    after.has path = true ∧ after.readText path = .ok (s.write (Format.forSaving path)) := by
  unfold save Files.save at hsave
  obtain ⟨made, -, hwrite⟩ := exists_of_bind_eq_ok hsave
  obtain ⟨hhas, hbytes⟩ := read_of_write (exists_of_mapError_eq_ok hwrite)
  refine ⟨hhas, ?_⟩
  simp only [readText, hbytes, bind, Except.bind, Text.decode_encode]
  rfl

theorem load_of_text {text : String} (hhas : files.has path = true)
    (htext : files.readText path = .ok text) :
    load files path = ((Format.ofPath? path).map (readAs path text)).getD
      (.error (.unsupportedFormat path)) := by
  simp only [load, hhas, htext, bind, Except.bind, Bool.not_true, Bool.false_eq_true, if_false]
  cases Format.ofPath? path with
  | none => rfl
  | some format => cases format <;> rfl

/-- Settings in a file that is not the log are loaded as before when the log goes on. -/
theorem load_eq_of_grown {log : Option Place} (hgrown : Grown log files after)
    (hother : ∀ place, files.locate path = .ok place → log ≠ some place) :
    load after path = load files path := by
  simp only [load, readText, hgrown.has_eq, hgrown.read_eq hother]

theorem load_of_save_supported {format : Format} (hformat : Format.ofPath? path = some format)
    (hsave : save files path s = .ok after) :
    load after path = readAs path (s.write format) format := by
  obtain ⟨hhas, htext⟩ := text_of_save hsave
  rw [load_of_text hhas htext, Format.forSaving, hformat]
  rfl

theorem load_of_save_unsupported (hnone : Format.ofPath? path = none)
    (hsave : save files path s = .ok after) :
    load after path = .error (.unsupportedFormat path) ∧
      after.readText path = .ok (s.write .toml) := by
  obtain ⟨hhas, htext⟩ := text_of_save hsave
  rw [load_of_text hhas htext, hnone]
  rw [Format.forSaving, hnone] at htext
  exact ⟨rfl, htext⟩

/-- Settings that were saved, in a format that loses nothing of them, are loaded again
from the same path exactly when its extension stands for a format.  From any other path
they are not loaded, whatever they are, only because of its name: the file holds them
in TOML. -/
theorem saved_settings_come_back (hback : s.ReadsBack (Format.forSaving path))
    (hsave : save files path s = .ok after) :
    (load after path = .ok s ↔ ∃ format : Format, format.StandsIn path) ∧
    ((¬∃ format : Format, format.StandsIn path) →
      load after path = .error (.unsupportedFormat path) ∧
      ∃ text, after.readText path = .ok text ∧ readToml path text = .ok s) := by
  simp only [← Format.ofPath?_eq_some_iff]
  cases hformat : Format.ofPath? path with
  | none =>
      obtain ⟨hload, htext⟩ := load_of_save_unsupported hformat hsave
      rw [Format.forSaving, hformat] at hback
      rw [hload]
      exact ⟨iff_of_false nofun nofun, fun _ => ⟨rfl, _, htext, hback path⟩⟩
  | some format =>
      rw [Format.forSaving, hformat] at hback
      have hload : load after path = .ok s :=
        (load_of_save_supported hformat hsave).trans (hback path)
      exact ⟨iff_of_true hload ⟨format, rfl⟩, fun hnone => absurd ⟨format, rfl⟩ hnone⟩

theorem exists_of_toBool {ε α : Type} {x : Except ε α} (hok : x.toBool = true) :
    ∃ a, x = .ok a := by
  cases x with
  | ok a => exact ⟨a, rfl⟩
  | error e => contradiction

/-- A directory is made on the way, and the extension is in upper case and follows
another dot. -/
theorem saved_settings_come_back_nested :
    let s : Settings := ⟨⟨.tolerant, some ["a \"b\""], none, true⟩, .standard, .standard⟩
    let path := "conf.d/.project.old.TOML"
    s.ReadsBack (Format.forSaving path) ∧
      ∃ after, save (.ofEntries ["home"] []) path s = .ok after ∧ load after path = .ok s := by
  intro s path
  have hsaving : Format.forSaving path = .toml := by decide +kernel
  have hback : s.ReadsBack (Format.forSaving path) :=
    hsaving ▸ readsBack_toml (by decide +kernel)
  have hstands : Format.StandsIn .toml path :=
    Format.ofPath?_eq_some_iff.1 (by decide +kernel)
  obtain ⟨after, hsave⟩ : ∃ after, save (.ofEntries ["home"] []) path s = .ok after :=
    exists_of_toBool (by decide +kernel)
  exact ⟨hback, after, hsave, (saved_settings_come_back hback hsave).1.2 ⟨.toml, hstands⟩⟩

/-- Settings are saved under a name from which they are not loaded. -/
theorem saved_settings_refused :
    let path := "settings.ini"
    standard.ReadsBack (Format.forSaving path) ∧
      ∃ after, save (.ofEntries [] []) path .standard = .ok after ∧
        load after path = .error (.unsupportedFormat path) := by
  intro path
  have hsaving : Format.forSaving path = .toml := by decide +kernel
  obtain ⟨after, hsave⟩ : ∃ after, save (.ofEntries [] []) path .standard = .ok after :=
    exists_of_toBool (by decide +kernel)
  have hnone : Format.ofPath? path = none := by decide +kernel
  exact ⟨hsaving ▸ standard_readsBack, after, hsave, (load_of_save_unsupported hnone hsave).1⟩

end Saved

example : Format.ofPath? "a.b/.settings.old.YmL" = some .yaml := by decide +kernel
example : Format.ofPath? "settings/.toml" = none := by decide +kernel

end EditorBlocks.Settings
