import GraphIngest.Config.Source
import GraphIngest.Proofs.Config.Disk
import GraphIngest.Proofs.Config.Written

/-!
# Settings that are saved

## Main definitions

* `Settings.load_put`: settings are loaded from a file with their document.
* `Settings.run_save`: what becomes of settings that are to be saved.
* `Settings.saved_or_untouched`: either they are loaded again and nothing else has changed, or
  nothing has.
-/

namespace GraphIngest

namespace Settings

variable {path text : String} {s : Settings} {disk : Disk} {p : Place}

/-- Settings are loaded from a file with their document. -/
theorem load_put (free : disk.entry? p ≠ some .directory) (leads : disk.place? path = .ok p)
    (file : Disk.wantsDirectory path = false) (written : s.toDocument = some text) :
    load (disk.put p text) (some path) = .ok (some s) := by
  have found : (disk.put p text).find path = .ok (.file (Symbol.ofString text)) :=
    Disk.find_put_here free leads file
  have there : (disk.put p text).exists path := by
    rw [Disk.exists, found]
    rfl
  have read : (disk.put p text).read path = .ok text := by
    rw [Disk.read, found]
    simp [bind, Except.bind, Symbol.text?_ofString]
    rfl
  simp [load, there, read, ofDocument_toDocument written]

/-! ## What stands in the way -/

/-- Saving looks at the path, then at the settings, and writes the file last of all. -/
theorem run_save (path : String) (s : Settings) (force : Bool) (disk : Disk) :
    (save path s force).run disk =
      if disk.exists path ∧ ¬force then (.error (.occupied path), disk)
      else match s.toDocument with
        | none => (.error .outOfRange, disk)
        | some text =>
          match disk.write path text with
          | .error e => (.error (.file e), disk)
          | .ok after => (.ok (), after) := by
  have atDisk (next : Disk → ExceptT SettingsError (StateM Disk) Unit) :
      (get >>= next).run disk = (next disk).run disk := rfl
  rw [save, atDisk]
  by_cases occupied : disk.exists path ∧ ¬force
  · simp only [if_pos occupied]
    rfl
  · simp only [if_neg occupied]
    cases s.toDocument with
    | none => rfl
    | some text =>
      dsimp only
      rw [atDisk]
      cases disk.write path text <;> rfl

variable {force : Bool} {outcome : Except SettingsError Unit} {after : Disk}

/-- What stands in the way is a file at the path, then a number that is too great, then whatever
else keeps a file from being written. -/
theorem save_cases (ran : (save path s force).run disk = (outcome, after)) :
    ((disk.exists path ∧ force = false) ∧ outcome = .error (.occupied path) ∧ after = disk) ∨
    (¬(disk.exists path ∧ force = false) ∧ ¬s.Writable ∧ outcome = .error .outOfRange ∧
      after = disk) ∨
    (¬(disk.exists path ∧ force = false) ∧ s.Writable ∧ ∃ text, s.toDocument = some text ∧
      ((∃ e, disk.write path text = .error e ∧ outcome = .error (.file e) ∧ after = disk) ∨
        (disk.write path text = .ok after ∧ outcome = .ok ()))) := by
  rw [run_save] at ran
  simp only [Bool.not_eq_true] at ran
  split at ran
  · rename_i occupied
    obtain ⟨rfl, rfl⟩ := Prod.mk.inj ran
    exact .inl ⟨occupied, rfl, rfl⟩
  rename_i room
  by_cases writable : s.Writable
  · refine .inr (.inr ⟨room, writable, _, toDocument_of_writable writable, ?_⟩)
    rw [toDocument_of_writable writable] at ran
    dsimp only at ran
    split at ran
    · rename_i e failed
      obtain ⟨rfl, rfl⟩ := Prod.mk.inj ran
      exact .inl ⟨e, failed, rfl, rfl⟩
    · rename_i written
      obtain ⟨rfl, rfl⟩ := Prod.mk.inj ran
      exact .inr ⟨written, rfl⟩
  · rw [toDocument_of_not_writable writable] at ran
    obtain ⟨rfl, rfl⟩ := Prod.mk.inj ran
    exact .inr (.inl ⟨room, writable, rfl, rfl⟩)

/-- Settings that are saved are loaded again, whatever is in them, and nothing else has changed; if
they are not saved, nothing has. They are not saved over a file unless that is forced, nor if one of
their numbers is too great for a document, nor where no file can be. -/
theorem saved_or_untouched (ran : (save path s force).run disk = (outcome, after)) :
    (outcome = .ok () →
      load after (some path) = .ok (some s) ∧ disk.SameElsewhere after path) ∧
    (∀ e, outcome = .error e → after = disk) ∧
    (outcome = .error (.occupied path) ↔ disk.exists path ∧ force = false) ∧
    (outcome = .error .outOfRange ↔ ¬(disk.exists path ∧ force = false) ∧ ¬s.Writable) ∧
    (outcome = .ok () ↔ ¬(disk.exists path ∧ force = false) ∧ s.Writable ∧
      ∃ p, disk.place? path = .ok p ∧ Disk.wantsDirectory path = false ∧
        disk.entry? p ≠ some .directory) := by
  obtain ⟨occupied, rfl, rfl⟩ | ⟨room, unwritable, rfl, rfl⟩ |
    ⟨room, writable, text, document, ⟨e, failed, rfl, rfl⟩ | ⟨written, rfl⟩⟩ := save_cases ran
  · simp [occupied]
  · simp [room, unwritable]
  · have nowhere (p : Place) (leads : after.place? path = .ok p)
        (file : Disk.wantsDirectory path = false) : after.entry? p = some .directory := by
      refine Classical.byContradiction fun free => ?_
      have written : after.write path text = .ok (after.put p text) :=
        Disk.write_eq_ok_iff.mpr ⟨p, leads, file, free, rfl⟩
      rw [failed] at written
      cases written
    simp only [room, writable]
    simpa using nowhere
  · obtain ⟨p, leads, file, free, rfl⟩ := Disk.write_eq_ok_iff.mp written
    have loaded := load_put free leads file document
    have elsewhere : disk.SameElsewhere (disk.put p text) path :=
      Disk.sameElsewhere_put free leads
    have somewhere : ∃ p, disk.place? path = .ok p ∧ Disk.wantsDirectory path = false ∧
        disk.entry? p ≠ some .directory := ⟨p, leads, file, free⟩
    simpa [room, writable, loaded, elsewhere] using somewhere

/-- A host that is written on several lines, between quotes that have no escapes. -/
def oddHost : Settings := { storeHost := "a\n\"\"\"\\" }

/-- A disk with two files. -/
def twoFiles : Disk := ⟨[(["a"], .file [.char 'x']), (["b"], .file [.broken 1])]⟩

theorem saved_over_file : ∃ after, (save "a" oddHost true).run twoFiles = (.ok (), after) ∧
    load after (some "a") = .ok (some oddHost) ∧ twoFiles.SameElsewhere after "a" := by
  have split : "a".splitOn "/" = ["a"] := by
    have first : ¬String.Pos.Raw.atEnd "a" 0 := by decide
    have other : ¬(String.Pos.Raw.get "a" 0 == String.Pos.Raw.get "/" 0) := by decide
    have last : String.Pos.Raw.atEnd "a" (String.Pos.Raw.next "a" (.unoffsetBy 0 0)) := by decide
    rw [String.splitOn, if_neg (by decide), String.splitOnAux, if_neg first, if_neg other,
      String.splitOnAux, if_pos last]
    decide
  have names : Disk.names "a" = ["a"] := by
    rw [Disk.names, split]
    decide
  have place : twoFiles.place? "a" = .ok ["a"] := by
    have origin : Disk.origin "a" = [] := by decide +kernel
    have visible : "a".contains (Char.ofNat 0) = false := by simp [String.contains]
    have short : ¬Disk.longestPath < "a".utf8ByteSize := by decide +kernel
    have located : twoFiles.locate "a" = .ok ([], "a") := by
      rw [Disk.locate, if_neg (by decide), if_neg (by simp [visible]), if_neg short, names, origin]
      rfl
    rw [Disk.place?, located]
    rfl
  cases ran : (save "a" oddHost true).run twoFiles with
  | mk outcome after =>
    obtain ⟨loaded, -, -, -, ok⟩ := saved_or_untouched ran
    have saved : outcome = .ok () :=
      ok.mpr ⟨by simp, ⟨by decide, by decide⟩, ["a"], place, by decide +kernel, by decide⟩
    exact ⟨after, by rw [saved], loaded saved⟩

end Settings

end GraphIngest
