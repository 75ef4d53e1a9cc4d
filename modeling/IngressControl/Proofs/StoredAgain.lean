import IngressControl.Proofs.StoredAs
import IngressControl.Proofs.WriteFrame

/-!
# Storing again

What is in the store already is not stored a second time, and what was just stored is in it. So a call
that follows another one with the same arguments finds nothing to do, and one that follows many other
calls does neither, as long as these stored other files and no link of the directory joins two files.

There is one way to lose what was stored (`storeAs_lost`). The path of the directory may go through the
very entry that is written, when that is a link, and when the file could not be found for want of a
directory in front of it. The file then takes the place of the link, and the path leads nowhere.
-/

namespace IngressControl.MaterialStore

variable {s : MaterialStore} {kind : MaterialKind} {t t' : FileTree} {faults : Faults}
  {path other name : String} {content : Bytes} {r : Except StoreError Stored} {stored : Stored}

/-! ## Other files -/

/-- The tree after some stores that succeeded, none of them at a path. -/
inductive StoredBeside (s : MaterialStore) (path : String) (t : FileTree) : FileTree → Prop
  | refl : StoredBeside s path t t
  | step {kind : MaterialKind} {t' t'' : FileTree} {faults : Faults} {name : String}
      {content : Bytes} {stored : Stored} (before : StoredBeside s path t t')
      (store : s.storeAs kind t' faults name content = (t'', .ok stored))
      (apart : stored.path ≠ path) : StoredBeside s path t t''

/-- What is found in a directory without links is found still when another file is stored there. -/
theorem locate_storeAs {l : Trail} {m : Nat} {b : Bytes}
    (h : s.storeAs kind t faults other content = (t', .ok stored)) (plain : Plain name)
    (apart : stored.path ≠ s.pathOf name) (linkless : t.Linkless s.directory)
    (found : t.locate true (s.pathOf name) = .ok (.file l m b)) :
    t'.locate true (s.pathOf name) = .ok (.file l m b) := by
  rcases storeAs_course h with ⟨_, _, refused⟩ | ⟨storable, course⟩
  · simp at refused
  · have path := course.path_eq
    cases course with
    | kept => exact found
    | written _ placed =>
      refine placed.locate_beside linkless (plain.confines s).child (s.pathOf_noSlash name)
        (s.child_pathAs storable) ?_ found
      intro same
      exact apart (by rw [path, pathAs, pathOf, pathOf, same])

theorem linkless_storeAs (h : s.storeAs kind t faults name content = (t', .ok stored))
    (linkless : t.Linkless s.directory) : t'.Linkless s.directory := by
  rcases storeAs_course h with ⟨_, _, refused⟩ | ⟨_, course⟩
  · simp at refused
  · exact course.linkless linkless

/-- **What is found in a directory without links is found still, whatever other files are stored.** -/
theorem StoredBeside.locate {l : Trail} {m : Nat} {b : Bytes}
    (h : s.StoredBeside (s.pathOf name) t t') (plain : Plain name)
    (linkless : t.Linkless s.directory)
    (found : t.locate true (s.pathOf name) = .ok (.file l m b)) :
    t'.Linkless s.directory ∧ t'.locate true (s.pathOf name) = .ok (.file l m b) := by
  induction h with
  | refl => exact ⟨linkless, found⟩
  | step _ store apart ih =>
    exact ⟨linkless_storeAs store ih.1, locate_storeAs store plain apart ih.1 ih.2⟩

theorem StoredBeside.has (h : s.StoredBeside (s.pathOf name) t t') (plain : Plain name)
    (linkless : t.Linkless s.directory) (has : Has t (s.pathOf name) content) :
    Has t' (s.pathOf name) content := by
  obtain ⟨found, read, same⟩ := has
  obtain ⟨l, m, stands⟩ := FileTree.read_eq_ok.mp read
  exact ⟨found, FileTree.read_eq_ok.mpr ⟨l, m, (h.locate plain linkless stands).2⟩, same⟩

/-! ## The same file -/

/-- Storing a piece of material comes to nothing but the answer that it is there. -/
def StoresNothing (s : MaterialStore) (kind : MaterialKind) (name : String) (content : Bytes)
    (t : FileTree) : Prop :=
  ∀ faults : Faults, faults .readFile = none →
    s.storeAs kind t faults name content = (t, .ok ⟨s.pathAs kind name, false⟩)

theorem storesNothing_iff (plain : Plain (kind.fileName name)) :
    s.StoresNothing kind name content t ↔ Has t (s.pathAs kind name) content := by
  constructor
  · intro nothing
    rcases storeAs_course (nothing noFaults rfl) with ⟨unnamed, _⟩ | ⟨_, course⟩
    · exact absurd plain unnamed
    · exact course.has_iff.mpr (by simp)
  · exact fun has faults readable => storeAs_of_has plain has readable

/-- How things stand when a piece of material was stored. -/
structure Settled (s : MaterialStore) (kind : MaterialKind) (name : String) (content : Bytes)
    (faults : Faults) (t : FileTree) (stored : Stored) (t' : FileTree) : Prop where
  path : stored.path = s.pathAs kind name
  /-- The file is left alone when it can be read and has the identity, and then all is. -/
  kept : stored.changed = false ↔ ∃ found, reading t faults stored.path = .ok found ∧
    contentIdentity found = contentIdentity content
  untouched : stored.changed = false → t' = t
  /-- It is written when it is missing or different. -/
  outdated : stored.changed = true → reading t faults stored.path = .error .notFound ∨
    ∃ found, reading t faults stored.path = .ok found ∧
      contentIdentity found ≠ contentIdentity content
  /-- It can be read then, unless it took the place of a link on the way to it. -/
  has_iff : Has t' stored.path content ↔ (stored.changed = true → t.Straight stored.path)
  /-- That is also when the same call has nothing to do. -/
  again_iff : s.StoresNothing kind name content t' ↔
    (stored.changed = true → t.Straight stored.path)
  crooked : stored.changed = true → ¬t.Straight stored.path →
    ∃ place target, t.place? stored.path = some place ∧ t.get place = some (.link target)
  /-- In a directory without links that never comes to pass. -/
  straight : t.Linkless s.directory → stored.changed = true → t.Straight stored.path
  /-- There is nothing to do then behind any number of stores of other files either. -/
  later : t.Linkless s.directory → ∀ t'', s.StoredBeside stored.path t' t'' →
    s.StoresNothing kind name content t''

theorem settled_of_ok (h : s.storeAs kind t faults name content = (t', .ok stored)) :
    s.Settled kind name content faults t stored t' := by
  rcases storeAs_course h with ⟨_, _, refused⟩ | ⟨plain, course⟩
  · simp at refused
  · obtain ⟨path, changed⟩ := stored
    obtain rfl : path = s.pathAs kind name := course.path_eq
    have straight : t.Linkless s.directory → changed = true → t.Straight (s.pathAs kind name) := by
      intro linkless changed
      obtain ⟨place, placed⟩ := course.placed changed
      exact placed.straight_of_linkless (s.child_pathAs plain) linkless
    refine
      { path := rfl
        kept := course.kept_iff
        untouched := course.untouched
        outdated := course.outdated
        has_iff := course.has_iff
        again_iff := (storesNothing_iff plain).trans course.has_iff
        crooked := ?_
        straight := straight
        later := ?_ }
    · intro changed crooked
      obtain ⟨place, placed⟩ := course.placed changed
      obtain ⟨target, link⟩ := placed.crooked crooked
      exact ⟨place, target, placed.isPlace, link⟩
    · intro linkless t'' beside
      have has := course.has_iff.mpr (straight linkless)
      exact (storesNothing_iff plain).mpr (beside.has plain (course.linkless linkless) has)

/-- **What storing comes to.** A piece of material that was stored is settled. One whose name is refused
is refused by that name alone, in any tree. One that failed to be read or written has left directories at
most. -/
theorem store_settles (h : s.storeAs kind t faults name content = (t', r)) :
    (∀ stored, r = .ok stored → s.Settled kind name content faults t stored t') ∧
      (∀ refused, r = .error (.invalidName refused) → refused = name ∧ t' = t ∧
        ∀ t faults content, s.storeAs kind t faults name content =
          (t, .error (.invalidName name))) ∧
      ∀ path cause, r = .error (.io path cause) → path = s.pathAs kind name ∧ t.Grown path t' := by
  refine ⟨?_, ?_, ?_⟩
  · rintro stored rfl
    exact settled_of_ok h
  · rintro refused rfl
    rcases storeAs_course h with ⟨unnamed, rfl, same⟩ | ⟨_, course⟩
    · simp only [Except.error.injEq, StoreError.invalidName.injEq] at same
      exact ⟨same, rfl, fun _ _ _ => storeAs_refused unnamed⟩
    · cases course
  · rintro path cause rfl
    rcases storeAs_course h with ⟨_, _, refused⟩ | ⟨_, course⟩
    · simp at refused
    · cases course with
      | failed grown => exact ⟨rfl, grown⟩

/-- A directory without links, in which a file has other content than it is to have. -/
def unlinked : FileTree where
  entries := [(["ssl"], .directory), (["site.pem", "ssl"], .file readableByAll [65])]
  start := []

theorem unlinked_linkless : unlinked.Linkless "ssl" := by
  have leads : unlinked.leadsTo? "ssl" = some ["ssl"] := by decide +kernel
  intro d ends entry target
  obtain rfl : ["ssl"] = d := Option.some.inj (leads.symm.trans ends)
  by_cases site : "site.pem" = entry <;> simp [unlinked, FileTree.get, FileTree.nodeAt, site]

/-- What storing the file comes to there, and then storing another one. -/
def restored : FileTree × Except StoreError Stored :=
  (MaterialStore.mk "ssl").storeAs .certificate unlinked noFaults "site" [66]

def restoredBoth : FileTree × Except StoreError Stored :=
  (MaterialStore.mk "ssl").storeAs .dhParam restored.1 noFaults "dhparam" [67]

theorem restored_run : restored.2 = .ok ⟨"ssl/site.pem", true⟩ ∧
    restoredBoth.2 = .ok ⟨"ssl/dhparam.pem", true⟩ := by
  decide +kernel

/-- Behind both of them the first has nothing to do. -/
theorem restored_settles :
    (MaterialStore.mk "ssl").storeAs .certificate unlinked noFaults "site" [66] =
        (restored.1, .ok ⟨"ssl/site.pem", true⟩) ∧
      (MaterialStore.mk "ssl").Settled .certificate "site" [66] noFaults unlinked
        ⟨"ssl/site.pem", true⟩ restored.1 ∧
      (MaterialStore.mk "ssl").StoresNothing .certificate "site" [66] restoredBoth.1 := by
  have run : (MaterialStore.mk "ssl").storeAs .certificate unlinked noFaults "site" [66] =
      (restored.1, .ok ⟨"ssl/site.pem", true⟩) := by
    rw [← restored_run.1, restored]
  have beside : (MaterialStore.mk "ssl").storeAs .dhParam restored.1 noFaults "dhparam" [67] =
      (restoredBoth.1, .ok ⟨"ssl/dhparam.pem", true⟩) := by
    rw [← restored_run.2, restoredBoth]
  have settled := (store_settles run).1 _ rfl
  exact ⟨run, settled,
    settled.later unlinked_linkless _ (.step .refl beside (by decide))⟩

/-- The directory is reached through a link with the name of a file in it, behind a directory that is
missing. -/
def throughLink : MaterialStore := ⟨"new/../site.pem/.."⟩

theorem throughLink_run :
    (throughLink.storeAs .certificate FileTree.linkedIn noFaults "site" [65]).2 =
      .ok ⟨"new/../site.pem/../site.pem", true⟩ := by
  decide +kernel

/-- **What was stored may be lost.** The same call does not find it. -/
theorem storeAs_lost : ¬∀ (s : MaterialStore) (t t' : FileTree) (name : String) (content : Bytes)
      (stored : Stored), s.storeAs .certificate t noFaults name content = (t', .ok stored) →
    s.storeAs .certificate t' noFaults name content = (t', .ok ⟨stored.path, false⟩) := by
  intro law
  have run : throughLink.storeAs .certificate FileTree.linkedIn noFaults "site" [65] =
      ((throughLink.storeAs .certificate FileTree.linkedIn noFaults "site" [65]).1,
        .ok ⟨"new/../site.pem/../site.pem", true⟩) := by
    rw [← throughLink_run]
  have settled := settled_of_ok run
  have again := law _ _ _ _ _ _ run
  have has : Has _ (throughLink.pathAs .certificate "site") [65] :=
    (settled_of_ok again).has_iff.mpr (by simp)
  have straight : FileTree.linkedIn.Straight (throughLink.pathAs .certificate "site") :=
    settled.has_iff.mp has rfl
  exact absurd straight (by decide +kernel)

end IngressControl.MaterialStore
