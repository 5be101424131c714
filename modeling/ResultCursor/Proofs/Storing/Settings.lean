import ResultCursor.Proofs.Storing.Contents
import ResultCursor.Proofs.Writing.Settings
import ResultCursor.Settings.Storage

/-! Settings that are kept in files. What was saved is loaded again, with nothing left out; what
cannot be saved leaves every file as it was. -/

namespace ResultCursor.Settings

variable {s : Settings} {f g h : Files} {path text : String} {here : List String}

/-! ### How saving ends -/

theorem save_of_blocked {fault : FileFault} (way : f.makeWay path = (g, .error fault)) :
    s.save f path = (g, .error (.files fault.message)) := by
  rw [save, way]

/-- There is no text for the settings. -/
theorem save_of_unwritable (way : f.makeWay path = (g, .ok here)) (unwritable : s.toText? = none) :
    s.save f path = (g, .error (.setting (.badFormat "out-of-range value for u64 type"))) := by
  rw [save, way]
  generalize s.toText? = written at unwritable
  rw [unwritable]

theorem save_of_refused {fault : FileFault} (way : f.makeWay path = (g, .ok here))
    (written : s.toText? = some text) (refused : g.write here path text.toUTF8 = .error fault) :
    s.save f path = (g, .error (.files fault.message)) := by
  rw [save, way]
  generalize s.toText? = result at written
  subst written
  dsimp only
  rw [refused]

theorem save_of_stored (way : f.makeWay path = (g, .ok here)) (written : s.toText? = some text)
    (stored : g.write here path text.toUTF8 = .ok h) : s.save f path = (h, .ok ()) := by
  rw [save, way]
  generalize s.toText? = result at written
  subst written
  dsimp only
  rw [stored]

/-- Settings are saved if there is a text for them, and the file at the path takes it. -/
theorem exists_write_of_save (saved : s.save f path = (h, .ok ())) :
    ∃ g here text, f.makeWay path = (g, .ok here) ∧ s.toText? = some text ∧
      g.write here path text.toUTF8 = .ok h := by
  cases way : f.makeWay path with
  | mk g result =>
    cases result with
    | error fault => cases (save_of_blocked way).symm.trans saved
    | ok here =>
      cases written : s.toText? with
      | none => cases (save_of_unwritable way written).symm.trans saved
      | some text =>
        cases stored : g.write here path text.toUTF8 with
        | error fault => cases (save_of_refused way written stored).symm.trans saved
        | ok h' =>
          cases (save_of_stored way written stored).symm.trans saved
          exact ⟨g, here, text, rfl, rfl, stored⟩

/-- Settings that are not saved leave every entry as it was. -/
theorem extends_of_save_error {e : Failure} (failed : s.save f path = (g, .error e)) :
    f.Extends g := by
  have grown := f.makeWay_extends path
  cases way : f.makeWay path with
  | mk h result =>
    rw [way] at grown
    cases result with
    | error fault =>
      cases (save_of_blocked way).symm.trans failed
      exact grown
    | ok here =>
      cases written : s.toText? with
      | none =>
        cases (save_of_unwritable way written).symm.trans failed
        exact grown
      | some text =>
        cases stored : h.write here path text.toUTF8 with
        | error fault =>
          cases (save_of_refused way written stored).symm.trans failed
          exact grown
        | ok h' => cases (save_of_stored way written stored).symm.trans failed

/-! ### Reading again -/

/-- The file of saved settings has them all. -/
theorem ofFile_of_save (saved : s.save f path = (g, .ok ())) (client : String) :
    ofFile client g path = .ok s := by
  obtain ⟨_, _, text, way, written, stored⟩ := exists_write_of_save saved
  have content := Files.readText_of_read (Files.read_of_write way stored)
  simp only [ofFile, content, ofText?_of_toText? written client]

/-- Whatever is saved is loaded again with every value that was set, and settings are refused
exactly for times that are too long. Refused settings are reported as badly formed if the folders on
the way are there or can be made, as they are where a file is at the path already; otherwise the
folders are what fails. No file changes unless the settings are saved. -/
theorem saved_settings_are_read_back (s : Settings) (client : String) (f : Files)
    (path : String) :
    (s.toText?.isSome ↔ s.IsWritable) ∧
      (∀ text, s.toText? = some text → ofText? client text = some s) ∧
      (∀ g, s.save f path = (g, .ok ()) → ofFile client g path = .ok s) ∧
      (∀ g e, s.save f path = (g, .error e) →
        ∀ other content, f.read other = .ok content → g.read other = .ok content) ∧
      (¬s.IsWritable →
        (∀ g here, f.makeWay path = (g, .ok here) →
          ∃ reason, s.save f path = (g, .error (.setting (.badFormat reason)))) ∧
        (∀ g fault, f.makeWay path = (g, .error fault) →
          s.save f path = (g, .error (.files fault.message))) ∧
        ∀ content, f.read path = .ok content →
          ∃ reason, s.save f path = (f, .error (.setting (.badFormat reason)))) := by
  refine ⟨toText?_isSome_iff, fun _ written => ofText?_of_toText? written client,
    fun _ saved => ofFile_of_save saved client,
    fun _ _ failed _ _ found => Files.read_of_extends (extends_of_save_error failed) found,
    fun tooLong => ?_⟩
  have unwritable : s.toText? = none := by
    rw [← Option.not_isSome_iff_eq_none, toText?_isSome_iff]
    exact tooLong
  refine ⟨fun g here way => ⟨_, save_of_unwritable way unwritable⟩,
    fun g fault way => save_of_blocked way, fun content found => ?_⟩
  obtain ⟨here, way⟩ := Files.makeWay_of_read found
  exact ⟨_, save_of_unwritable way unwritable⟩

/-- A time of which no text can be written, kept from a file that is there. -/
theorem too_long_time_leaves_the_file :
    let s : Settings :=
      { cursor := { timeoutMillis := some 0x8000000000000000, client := "a\"\n" } }
    let f : Files := ⟨[(["c.toml"], .file "[cursor]".toUTF8)]⟩
    ¬s.IsWritable ∧ f.read "c.toml" = .ok "[cursor]".toUTF8 ∧
      ∃ reason, s.save f "c.toml" = (f, .error (.setting (.badFormat reason))) := by
  intro s f
  have tooLong : ¬s.IsWritable := fun writable => absurd (writable.timeout _ rfl) (by decide)
  have found : f.read "c.toml" = .ok "[cursor]".toUTF8 := rfl
  exact ⟨tooLong, found,
    ((saved_settings_are_read_back s "host" f "c.toml").2.2.2.2 tooLong).2.2 _ found⟩

/-- Where a file stands in the way of a folder, that is reported in place of the time. -/
theorem too_long_time_behind_a_file :
    let s : Settings :=
      { cursor := { maxAwaitMillis := 0x8000000000000000, client := "host" } }
    let f : Files := ⟨[(["a"], .file "in the way".toUTF8)]⟩
    ¬s.IsWritable ∧ s.save f "a/b.toml" = (f, .error (.files "File exists (os error 17)")) := by
  intro s f
  have way : f.makeWay "a/b.toml" = (f, .error .taken) := rfl
  exact ⟨fun writable => absurd writable.maxAwait (by decide), save_of_blocked way⟩

end ResultCursor.Settings
