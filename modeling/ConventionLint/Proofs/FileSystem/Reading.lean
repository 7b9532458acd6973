import ConventionLint.FileSystem
import ConventionLint.Proofs.Stages

namespace ConventionLint.FileSystem

variable (fs : FileSystem)

theorem locate_of_readText (path : Path) (text : String) (read : fs.readText path = .ok text) :
    ∃ location, fs.locate path = .ok location ∧ fs.textAt location = .ok text := by
  unfold readText at read
  split at read
  · cases read
  · next location located => exact ⟨location, located, read⟩

theorem locate_eq_ok_iff (path : Path) (location : Location) :
    fs.locate path = .ok location ↔ ∃ place, fs.reach path = .ok place ∧ place.location = location :=
  map_eq_ok_iff _ _ _

theorem isAbsolute_of_reach (path : Path) (place : Reached) (reached : fs.reach path = .ok place) :
    path.isAbsolute = true := by
  unfold reach at reached
  split at reached
  · assumption
  · cases reached

theorem isAbsolute_of_locate (path : Path) (location : Location)
    (located : fs.locate path = .ok location) : path.isAbsolute = true := by
  obtain ⟨place, reached, _⟩ := (fs.locate_eq_ok_iff path location).mp located
  exact fs.isAbsolute_of_reach path place reached

theorem isFile_of_textAt (path : Path) (location : Location) (text : String)
    (located : fs.locate path = .ok location) (found : fs.textAt location = .ok text) :
    fs.isFile path = true := by
  unfold textAt at found
  split at found
  · next stored => simp only [isFile, located, stored]
  · cases found
  · cases found

theorem isFile_of_readText (path : Path) (text : String) (read : fs.readText path = .ok text) :
    path.isAbsolute = true ∧ fs.isFile path = true := by
  obtain ⟨location, located, found⟩ := fs.locate_of_readText path text read
  exact ⟨fs.isAbsolute_of_locate path location located,
    fs.isFile_of_textAt path location text located found⟩

theorem textAt_eq_ok (location : Location) (text : String)
    (stored : fs.get? location = some (.file text.toUTF8)) : fs.textAt location = .ok text := by
  have decoded : String.fromUTF8? text.toUTF8 = some text := dif_pos text.isValidUTF8
  simp only [textAt, stored, decoded]

end ConventionLint.FileSystem
