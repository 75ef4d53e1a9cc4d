import IngressControl.Proofs.StoredAgain

/-!
# Who may read what is stored

What the store writes is for its owner's eyes only. What it finds in place it leaves alone, and it looks
at the content of a file and not at its mode; so a file that somebody else put there, for all to read,
stays as it is for as long as the content is right.

`storeAs_ownerOnly_iff` says when the file behind a path is the owner's: when it was written, or was so
before. A file that was written is the one that the path leads to, but for one case: it was put in the
place of a link that the way to the directory goes through, and the path leads to no file any more.
-/

namespace IngressControl

/-- The mode of the file that a path leads to. -/
def FileTree.mode? (t : FileTree) (path : String) : Option Nat :=
  match t.locate true path with
  | .ok (.file _ mode _) => some mode
  | _ => none

theorem FileTree.mode?_eq_some {t : FileTree} {path : String} {m : Nat} :
    t.mode? path = some m ↔ ∃ l c, t.locate true path = .ok (.file l m c) := by
  unfold FileTree.mode?
  cases t.locate true path with
  | error e => simp
  | ok p => cases p <;> simp

namespace MaterialStore

variable {s : MaterialStore} {kind : MaterialKind} {t t' : FileTree} {faults : Faults}
  {path name : String} {content : Bytes} {stored : Stored}

/-- The file of a path that was written is the owner's, if the path leads to it. -/
theorem mode?_of_placed {place : Trail} (h : t.Placed path content place t') :
    t'.mode? path = some ownerOnly ↔ t.Straight path := by
  rw [FileTree.mode?_eq_some]
  constructor
  · rintro ⟨_, _, found⟩
    exact h.straight found
  · exact fun straight => ⟨_, _, h.leads straight true⟩

/-- What is read at a path that was written, and when nothing is. -/
theorem reads_of_placed {place : Trail} (h : t.Placed path content place t') :
    (t.Straight path → t'.read path = .ok content ∧
        ∀ follow, t'.locate follow path = .ok (.file place ownerOnly content)) ∧
      (¬t.Straight path → (∃ target, t.get place = some (.link target)) ∧
        ∀ found, t'.read path ≠ .ok found) := by
  constructor
  · exact fun straight => ⟨h.read straight, h.leads straight⟩
  · intro crooked
    refine ⟨h.crooked crooked, fun found read => crooked ?_⟩
    obtain ⟨_, _, located⟩ := FileTree.read_eq_ok.mp read
    exact h.straight located

/-- **Where the owner alone may read.** The file behind the path is the owner's when it was written, as
long as the path leads to it, and else when it was so before. What was written is the owner's in any
case, and so is every file that came or changed. What was written is what is read at the path, or it took
the place of a link on the way to the directory and nothing can be read there. -/
theorem storeAs_ownerOnly_iff (h : s.storeAs kind t faults name content = (t', .ok stored)) :
    (t'.mode? stored.path = some ownerOnly ↔
        if stored.changed then t.Straight stored.path else t.mode? stored.path = some ownerOnly) ∧
      (stored.changed = true → ∃ place, t.place? stored.path = some place ∧
        t'.get place = some (.file ownerOnly content) ∧
        (t.Straight stored.path → t'.read stored.path = .ok content ∧
          ∀ follow, t'.locate follow stored.path = .ok (.file place ownerOnly content)) ∧
        (¬t.Straight stored.path → (∃ target, t.get place = some (.link target)) ∧
          ∀ found, t'.read stored.path ≠ .ok found)) ∧
      (stored.changed = false → t' = t) ∧
      ∀ l, t'.fileAt l ≠ t.fileAt l → t'.fileAt l = some (ownerOnly, content) := by
  rcases storeAs_course h with ⟨_, _, refused⟩ | ⟨_, course⟩
  · simp at refused
  · cases course with
    | kept => simp
    | written _ placed =>
      rename_i place _
      refine ⟨by simpa using mode?_of_placed placed,
        fun _ => ⟨place, placed.isPlace, placed.file, reads_of_placed placed⟩, by simp,
        fun l changed => ?_⟩
      by_cases same : l = place
      · rw [same, FileTree.fileAt, placed.file]
      · exact absurd (placed.fileAt same) changed

/-- What storing a file in the place of a link comes to. -/
def overLink : FileTree × Except StoreError Stored :=
  (MaterialStore.mk "ssl").storeAs .certificate FileTree.linkedOut noFaults "site" [66]

theorem overLink_run : overLink.2 = .ok ⟨"ssl/site.pem", true⟩ := by
  decide +kernel

/-- The file that the link led to is there for all to read; the one in its place is not. -/
theorem overLink_ownerOnly :
    (MaterialStore.mk "ssl").storeAs .certificate FileTree.linkedOut noFaults "site" [66] =
        (overLink.1, .ok ⟨"ssl/site.pem", true⟩) ∧
      FileTree.linkedOut.mode? "ssl/site.pem" = some readableByAll ∧
      overLink.1.mode? "ssl/site.pem" = some ownerOnly ∧
      overLink.1.read "ssl/site.pem" = .ok [66] := by
  have run : (MaterialStore.mk "ssl").storeAs .certificate FileTree.linkedOut noFaults "site" [66] =
      (overLink.1, .ok ⟨"ssl/site.pem", true⟩) := by
    rw [← overLink_run, overLink]
  have straight : FileTree.linkedOut.Straight "ssl/site.pem" := by decide +kernel
  obtain ⟨mode, written, _⟩ := storeAs_ownerOnly_iff run
  obtain ⟨_, _, _, reads, _⟩ := written rfl
  exact ⟨run, by decide +kernel, mode.mpr straight, (reads straight).1⟩

theorem unlinked_run :
    ((MaterialStore.mk "ssl").storeAs .certificate unlinked noFaults "site" [65]).2 =
      .ok ⟨"ssl/site.pem", false⟩ := by
  decide +kernel

/-- **Not all that is in the store is the owner's.** A file that has the content is left with the mode
that it has. -/
theorem storeAs_not_ownerOnly : ¬∀ (s : MaterialStore) (t t' : FileTree) (name : String)
      (content : Bytes) (stored : Stored),
      s.storeAs .certificate t noFaults name content = (t', .ok stored) →
    t'.mode? stored.path = some ownerOnly := by
  intro law
  have run : (MaterialStore.mk "ssl").storeAs .certificate unlinked noFaults "site" [65] =
      (((MaterialStore.mk "ssl").storeAs .certificate unlinked noFaults "site" [65]).1,
        .ok ⟨"ssl/site.pem", false⟩) := by
    rw [← unlinked_run]
  have sealed := law _ _ _ _ _ _ run
  rw [(settled_of_ok run).untouched rfl] at sealed
  exact absurd sealed (by decide +kernel)

end MaterialStore

end IngressControl
