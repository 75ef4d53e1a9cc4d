import IngressControl.FileTree.Edit
import IngressControl.Proofs.FileTree.Untouched

/-!
# What a write leaves as it was

A write makes the missing directories on the way one by one, opens a temporary file, fills it, makes it
the owner's and moves it, and each of these steps may fail. However far it comes, no entry that was there
is touched but the one at the path, and that one only by the last step, which puts the new file in its
place. All that can be left of a write that failed are directories on the way.

The file is put where the path led when it was written. It is found there by the path again, but for one
case: the way to the directory goes through the entry itself, which then is a link and is replaced, and
the path leads nowhere from then on (`writeAtomic_strays`).
-/

namespace IngressControl.FileTree

variable {t t' : FileTree} {faults : Faults} {path : String} {c : Bytes} {r : Except IoError Unit}

theorem Grown.fileAt (h : t.Grown path t') (l : Trail) : t'.fileAt l = t.fileAt l := by
  rcases h.get l with same | ⟨_, missing, made⟩
  · exact fileAt_congr same
  · rw [FileTree.fileAt, FileTree.fileAt, missing, made]

theorem Placed.fileAt {place l : Trail} (h : t.Placed path c place t') (elsewhere : l ≠ place) :
    t'.fileAt l = t.fileAt l := by
  rcases h.elsewhere l elsewhere with same | ⟨_, missing, made⟩
  · exact fileAt_congr same
  · rw [FileTree.fileAt, FileTree.fileAt, missing, made]

/-- **What a write does to the tree.** One that succeeds puts the owner's file at the place of the path,
where it replaces a file or a link, and the path leads to it, unless a link that it replaced was on the
way there. One that fails puts nothing there. In both cases all else is as it was, but for directories
that were missing on the way; no file has come or changed besides that one, so no temporary file is left
behind. -/
theorem writeAtomic_frame (h : t.writeAtomic faults path c = (t', r)) :
    (r = .ok () → ∃ place, t.Placed path c place t') ∧
      (∀ e, r = .error e → t.Grown path t') ∧
      ∀ l, t'.fileAt l ≠ t.fileAt l → r = .ok () ∧ t.place? path = some l := by
  refine ⟨?_, ?_, fun l changed => ?_⟩
  · rintro rfl
    exact writeAtomic_ok_placed h
  · rintro e rfl
    exact writeAtomic_error_grown h
  · cases r with
    | error e => exact absurd ((writeAtomic_error_grown h).fileAt l) changed
    | ok u =>
      obtain ⟨place, placed⟩ := writeAtomic_ok_placed h
      refine ⟨rfl, ?_⟩
      by_cases same : l = place
      · rw [same, placed.isPlace]
      · exact absurd (placed.fileAt same) changed

/-- A directory with a link to a file outside of it. -/
def linkedOut : FileTree where
  entries := [(["ssl"], .directory), (["site.pem", "ssl"], .link "../site.pem"),
    (["site.pem"], .file readableByAll [65])]
  start := []

/-- A disk that is full when it makes a directory behind the first one. -/
def filling : Faults := fun asked => if asked = .makeDirectory 1 true then some .noSpace else none

/-- A write that fails there leaves the first directory behind. -/
example :
    (linkedOut.writeAtomic filling "new/deep/site.pem" [66]).2 = .error .noSpace ∧
      (linkedOut.writeAtomic filling "new/deep/site.pem" [66]).1.get ["new"] = some .directory ∧
      (linkedOut.writeAtomic filling "new/deep/site.pem" [66]).1.get ["deep", "new"] = none := by
  decide +kernel

/-- What a write through a directory that has to be made comes to there. -/
def rewritten : FileTree × Except IoError Unit :=
  linkedOut.writeAtomic noFaults "ssl/new/../site.pem" [66]

theorem rewritten_run :
    rewritten.2 = .ok () ∧
      rewritten.1.get ["site.pem", "ssl"] = some (.file ownerOnly [66]) ∧
      rewritten.1.get ["new", "ssl"] = some .directory ∧
      rewritten.1.get ["site.pem"] = some (.file readableByAll [65]) := by
  decide +kernel

/-- The link is replaced and its target stays. -/
theorem rewritten_frame :
    linkedOut.writeAtomic noFaults "ssl/new/../site.pem" [66] = (rewritten.1, .ok ()) ∧
      (∃ place, linkedOut.Placed "ssl/new/../site.pem" [66] place rewritten.1) ∧
      rewritten.1.get ["site.pem"] = some (.file readableByAll [65]) := by
  have run : linkedOut.writeAtomic noFaults "ssl/new/../site.pem" [66] = (rewritten.1, .ok ()) := by
    rw [← rewritten_run.1, rewritten]
  exact ⟨run, (writeAtomic_frame run).1 rfl, rewritten_run.2.2.2⟩

/-- A link to a directory. -/
def linkedIn : FileTree where
  entries := [(["store"], .directory), (["site.pem"], .link "store")]
  start := []

theorem linkedIn_run : (linkedIn.writeAtomic noFaults "site.pem/../site.pem" [65]).2 = .ok () := by
  decide +kernel

/-- **A path may not lead to the file that was written to it.** -/
theorem writeAtomic_strays : ¬∀ (t t' : FileTree) (path : String) (c : Bytes),
    t.writeAtomic noFaults path c = (t', .ok ()) →
      ∃ l, t'.locate false path = .ok (.file l ownerOnly c) := by
  intro law
  have run : linkedIn.writeAtomic noFaults "site.pem/../site.pem" [65] =
      ((linkedIn.writeAtomic noFaults "site.pem/../site.pem" [65]).1, .ok ()) := by
    rw [← linkedIn_run]
  obtain ⟨l, found⟩ := law _ _ _ _ run
  obtain ⟨place, placed⟩ := writeAtomic_ok_placed run
  exact absurd (placed.straight found) (by decide +kernel)

end IngressControl.FileTree
