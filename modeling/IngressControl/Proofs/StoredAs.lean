import IngressControl.Proofs.FileTree.Neighbours
import IngressControl.Proofs.MaterialNames

/-!
# How a piece of material is stored

A store looks at the name, then reads the file, and writes it unless what it read has the identity of
what is to go there. What was stored can be read back, and then nothing is written a second time.
-/

namespace IngressControl.MaterialStore

/-- The file at a path can be read, and has the identity of a content. -/
def Has (t : FileTree) (path : String) (content : Bytes) : Prop :=
  ∃ found, t.read path = .ok found ∧ contentIdentity found = contentIdentity content

variable {s : MaterialStore} {kind : MaterialKind} {t t' t'' : FileTree} {faults : Faults}
  {path name : String} {content : Bytes} {r : Except StoreError Stored} {stored : Stored}

/-- A piece of material is refused by its name, or stored. -/
theorem storeAs_course (h : s.storeAs kind t faults name content = (t', r)) :
    (¬Plain (kind.fileName name) ∧ t' = t ∧ r = .error (.invalidName name)) ∨
      (Plain (kind.fileName name) ∧ Storing t faults (s.pathAs kind name) content t' r) := by
  rcases storeAs_cases h with ⟨invalid, same, refused⟩ | ⟨valid, store⟩
  · refine Or.inl ⟨fun plain => ?_, same, refused⟩
    rw [isValidName_iff.mpr plain] at invalid
    simp at invalid
  · exact Or.inr ⟨isValidName_iff.mp valid, store_course store⟩

theorem storeAs_refused (h : ¬Plain (kind.fileName name)) :
    s.storeAs kind t faults name content = (t, .error (.invalidName name)) := by
  rw [storeAs_eq, if_neg fun valid => h (isValidName_iff.mp valid)]

/-- **What a file has is not stored again.** -/
theorem storeAs_of_has (plain : Plain (kind.fileName name)) (has : Has t (s.pathAs kind name) content)
    (readable : faults .readFile = none) :
    s.storeAs kind t faults name content = (t, .ok ⟨s.pathAs kind name, false⟩) := by
  obtain ⟨found, read, same⟩ := has
  have kept : needsWrite t faults (s.pathAs kind name) content = .ok false := by
    rw [needsWrite_eq, reading_eq_ok.mpr ⟨readable, read⟩]
    simp [same]
  rw [storeAs_eq, if_pos (isValidName_iff.mpr plain), store, kept]

theorem child_pathAs (s : MaterialStore) (plain : Plain (kind.fileName name)) :
    Path.Child s.directory (s.pathAs kind name) (kind.fileName name ++ ".pem") :=
  (plain.confines s).child

namespace Storing

theorem path_eq (h : Storing t faults path content t' (.ok stored)) : stored.path = path := by
  cases h <;> rfl

/-- What was stored can be read back, if the path led to the file. -/
theorem has_iff (h : Storing t faults path content t' (.ok stored)) :
    Has t' path content ↔ (stored.changed = true → t.Straight path) := by
  cases h with
  | kept read same => exact iff_of_true ⟨_, (reading_eq_ok.mp read).2, same⟩ (by simp)
  | written outdated placed =>
    constructor
    · rintro ⟨_, read, _⟩ _
      obtain ⟨l, m, found⟩ := FileTree.read_eq_ok.mp read
      exact placed.straight found
    · intro straight
      exact ⟨content, FileTree.read_eq_ok.mpr ⟨_, _, placed.leads (straight rfl) true⟩, rfl⟩

/-- A file is left alone when it can be read and has the identity. -/
theorem kept_iff (h : Storing t faults path content t' (.ok stored)) :
    stored.changed = false ↔ ∃ found, reading t faults path = .ok found ∧
      contentIdentity found = contentIdentity content := by
  cases h with
  | kept read same => exact iff_of_true rfl ⟨_, read, same⟩
  | written outdated _ =>
    refine iff_of_false (by simp) ?_
    rintro ⟨found, read, same⟩
    rcases outdated with missing | ⟨other, read', differ⟩
    · rw [read] at missing; simp at missing
    · rw [read, Except.ok.injEq] at read'
      exact differ (read' ▸ same)

theorem untouched (h : Storing t faults path content t' (.ok stored))
    (unchanged : stored.changed = false) : t' = t := by
  cases h with
  | kept => rfl
  | written => simp at unchanged

theorem outdated (h : Storing t faults path content t' (.ok stored))
    (changed : stored.changed = true) : reading t faults path = .error .notFound ∨ ∃ found,
      reading t faults path = .ok found ∧ contentIdentity found ≠ contentIdentity content := by
  cases h with
  | kept => simp at changed
  | written outdated _ => exact outdated

theorem placed (h : Storing t faults path content t' (.ok stored)) (changed : stored.changed = true) :
    ∃ place, t.Placed path content place t' := by
  cases h with
  | kept => simp at changed
  | written _ placed => exact ⟨_, placed⟩

theorem linkless {directory : String} (h : Storing t faults path content t' (.ok stored))
    (linkless : t.Linkless directory) : t'.Linkless directory := by
  cases h with
  | kept => exact linkless
  | written _ placed => exact placed.linkless linkless

end Storing

end IngressControl.MaterialStore
