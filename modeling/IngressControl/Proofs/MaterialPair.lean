import IngressControl.Proofs.StoredAgain
import IngressControl.Reconciler.Run

/-!
# A certificate and parameters in one directory

The default certificate of a snapshot is stored first, and its Diffie-Hellman parameters behind it. Both
files are entries of one directory and have the same suffix, so they are apart only as far as their names
are, the placeholder of a certificate without a name included. And a link in the directory can lead from
the one file to the other.

The parameters can be read in any case when both were stored: had the first store, or the second one, cut
off the directory, the second would have failed. The certificate can be read just when the parameters'
file was not put on the way to it (`StoredBoth.reads_certificate_iff`). Under one name it always was,
unless the contents are the same. Under two names that never happens to a file that was written just now,
nor in a directory without links (`storedBoth_reads`).
-/

namespace IngressControl.MaterialStore

open FileTree

/-- The contents that play a part when both are stored: their own, and what was in the files before. -/
def InPlay (t : FileTree) (pem dh b : Bytes) : Prop :=
  b = pem ∨ b = dh ∨ ∃ l m, t.get l = some (.file m b)

/-- A certificate was stored, and then Diffie-Hellman parameters were. -/
structure StoredBoth (s : MaterialStore) (name dhName : String) (pem dh : Bytes) (t t₁ t₂ : FileTree)
    (c d : Stored) : Prop where
  certificate : ∃ faults, s.storeCertificate t faults name pem = (t₁, .ok c)
  /-- The disk did not report a file missing that is there. -/
  dhParam : ∃ faults : Faults, faults .readFile ≠ some .notFound ∧
    s.storeDhParam t₁ faults dhName dh = (t₂, .ok d)
  free : CollisionFree (InPlay t pem dh)

namespace StoredBoth

variable {s : MaterialStore} {name dhName : String} {pem dh b : Bytes} {t t₁ t₂ : FileTree}
  {c d : Stored} {l dir : Trail} {m : Nat}

theorem certificate_course (h : s.StoredBoth name dhName pem dh t t₁ t₂ c d) :
    Plain (fileName name) ∧ ∃ faults, Storing t faults (s.certificatePath name) pem t₁ (.ok c) := by
  obtain ⟨faults, run⟩ := h.certificate
  have run : s.storeAs .certificate t faults name pem = (t₁, .ok c) := run
  rcases storeAs_course run with ⟨_, _, refused⟩ | ⟨plain, course⟩
  · simp at refused
  · exact ⟨plain, faults, course⟩

theorem dhParam_course (h : s.StoredBoth name dhName pem dh t t₁ t₂ c d) :
    Plain dhName ∧ ∃ faults : Faults, faults .readFile ≠ some .notFound ∧
      Storing t₁ faults (s.dhParamPath dhName) dh t₂ (.ok d) := by
  obtain ⟨faults, honest, run⟩ := h.dhParam
  have run : s.storeAs .dhParam t₁ faults dhName dh = (t₂, .ok d) := run
  rcases storeAs_course run with ⟨_, _, refused⟩ | ⟨plain, course⟩
  · simp at refused
  · exact ⟨plain, faults, honest, course⟩

theorem certificate_child (h : s.StoredBoth name dhName pem dh t t₁ t₂ c d) :
    Path.Child s.directory (s.certificatePath name) (fileName name ++ ".pem") :=
  (h.certificate_course.1.confines s).child

theorem dhParam_child (h : s.StoredBoth name dhName pem dh t t₁ t₂ c d) :
    Path.Child s.directory (s.dhParamPath dhName) (dhName ++ ".pem") :=
  (h.dhParam_course.1.confines s).child

/-- When the parameters were written, their file was missing or different. -/
theorem outdated (h : s.StoredBoth name dhName pem dh t t₁ t₂ c d) (changed : d.changed = true) :
    t₁.read (s.dhParamPath dhName) = .error .notFound ∨ ∃ found,
      t₁.read (s.dhParamPath dhName) = .ok found ∧ contentIdentity found ≠ contentIdentity dh := by
  obtain ⟨_, faults, honest, course⟩ := h.dhParam_course
  have outdated := course.outdated changed
  unfold reading at outdated
  cases fault : faults .readFile with
  | none =>
    rw [fault] at outdated
    exact outdated
  | some e =>
    rw [fault] at outdated honest
    simp at outdated honest
    exact absurd outdated honest

/-! ## Behind the first store -/

theorem inPlay_of_read (h : s.StoredBoth name dhName pem dh t t₁ t₂ c d) {path : String}
    (read : t₁.read path = .ok b) : InPlay t pem dh b := by
  obtain ⟨l, _, _, m, file⟩ := file_of_read read
  obtain ⟨_, _, course⟩ := h.certificate_course
  cases course with
  | kept => exact Or.inr (Or.inr ⟨l, m, file⟩)
  | @written place _ _ placed =>
    by_cases same : l = place
    · rw [same, placed.file] at file
      cases file
      exact Or.inl rfl
    · rcases placed.elsewhere l same with kept | ⟨_, _, made⟩
      · exact Or.inr (Or.inr ⟨l, m, kept ▸ file⟩)
      · rw [file] at made
        simp at made

/-- The way to the directory is not cut off, or the parameters had not been stored. -/
theorem leads (h : s.StoredBoth name dhName pem dh t t₁ t₂ c d) :
    ∃ dir, t₁.leadsTo? s.directory = some dir := by
  obtain ⟨_, _, _, course⟩ := h.dhParam_course
  cases course with
  | kept read same =>
    obtain ⟨l, m, found⟩ := read_eq_ok.mp (reading_eq_ok.mp read).2
    obtain ⟨_, dir, holder, _⟩ := hasDirectory_of_locate h.dhParam_child (s.pathOf_noSlash _) found
    exact ⟨dir, holder.leadsTo?⟩
  | written _ placed =>
    have isPlace := placed.isPlace
    rw [place?_child h.dhParam_child] at isPlace
    obtain ⟨dir, leads, _⟩ := Option.map_eq_some_iff.mp isPlace
    exact ⟨dir, leads⟩

/-- The certificate can be read behind its own store. -/
theorem reads_first (h : s.StoredBoth name dhName pem dh t t₁ t₂ c d) :
    t₁.read (s.certificatePath name) = .ok pem := by
  obtain ⟨_, _, course⟩ := h.certificate_course
  have straight : c.changed = true → t.Straight (s.certificatePath name) := by
    intro changed
    obtain ⟨place, placed⟩ := course.placed changed
    obtain ⟨dir, leads⟩ := h.leads
    have still : t₁.place? (s.certificatePath name) = some ((fileName name ++ ".pem") :: dir) := by
      rw [place?_child h.certificate_child, leads, Option.map_some]
    exact placed.straight_of_place still
  obtain ⟨found, read, same⟩ := course.has_iff.mpr straight
  rw [read, h.free found pem (h.inPlay_of_read read) (Or.inl rfl) same]

/-- The certificate's file, behind its own store. -/
theorem locates_first (h : s.StoredBoth name dhName pem dh t t₁ t₂ c d) :
    ∃ l m, t₁.locate true (s.certificatePath name) = .ok (.file l m pem) :=
  read_eq_ok.mp h.reads_first

theorem holder (h : s.StoredBoth name dhName pem dh t t₁ t₂ c d) :
    ∃ dir, t₁.HasDirectory s.directory dir := by
  obtain ⟨l, m, found⟩ := h.locates_first
  obtain ⟨_, dir, holder, _⟩ := hasDirectory_of_locate h.certificate_child (s.pathOf_noSlash _) found
  exact ⟨dir, holder⟩

/-! ## Behind the second store -/

/-- A walk through the parameters' file, when that was written, ends at a file with other content. -/
theorem walk_through (h : s.StoredBoth name dhName pem dh t t₁ t₂ c d) (changed : d.changed = true)
    (holder : t₁.HasDirectory s.directory dir) {links : Nat} {trail : Trail} {steps : List Step}
    {p : Place} (there : ∀ l, p ≠ .vacant l) (walk : t₁.walk true links trail steps = .ok p)
    (onWay : (dhName ++ ".pem") :: dir ∈ t₁.walkWay links trail steps) :
    ∃ l m b, p = .file l m b ∧ contentIdentity b ≠ contentIdentity dh := by
  have arrives := arrives_of_walk there _ _ _ walk
  obtain ⟨found, same⟩ := holder.read_entry h.dhParam_child (s.pathOf_noSlash _) arrives onWay
  rcases h.outdated changed with missing | ⟨b, read, differ⟩
  · exact absurd missing found
  · obtain ⟨l, m, rfl⟩ := same b read
    exact ⟨l, m, b, rfl, differ⟩

/-- The way to the directory does not go through the parameters' file when that is written. -/
theorem straight (h : s.StoredBoth name dhName pem dh t t₁ t₂ c d) (changed : d.changed = true) :
    t₁.Straight (s.dhParamPath dhName) := by
  intro place isPlace onWay
  obtain ⟨dir, holder⟩ := h.holder
  obtain rfl := Option.some.inj ((holder.place? h.dhParam_child).symm.trans isPlace)
  rw [holderWay, holderSteps, h.dhParam_child.steps, List.dropLast_concat,
    origin_child t₁ h.dhParam_child] at onWay
  obtain ⟨_, _, _, file, _⟩ := h.walk_through changed holder (by simp) holder onWay
  simp at file

theorem reads_dhParam (h : s.StoredBoth name dhName pem dh t t₁ t₂ c d) :
    t₂.read (s.dhParamPath dhName) = .ok dh := by
  obtain ⟨_, _, _, course⟩ := h.dhParam_course
  cases changed : d.changed with
  | false =>
    obtain ⟨found, read, same⟩ := course.has_iff.mpr h.straight
    obtain rfl := course.untouched changed
    rw [read, h.free found dh (h.inPlay_of_read read) (Or.inr (Or.inl rfl)) same]
  | true =>
    obtain ⟨place, placed⟩ := course.placed changed
    exact placed.read (h.straight changed)

/-- **The certificate can be read just when the parameters were not put on the way to it.** -/
theorem reads_certificate_iff (h : s.StoredBoth name dhName pem dh t t₁ t₂ c d) :
    t₂.read (s.certificatePath name) = .ok pem ↔
      (d.changed = true → t₁.Apart (s.dhParamPath dhName) (s.certificatePath name)) := by
  obtain ⟨_, _, _, course⟩ := h.dhParam_course
  constructor
  · intro read changed place isPlace onWay
    obtain ⟨place', placed⟩ := course.placed changed
    obtain rfl : place' = place := Option.some.inj (placed.isPlace.symm.trans isPlace)
    obtain ⟨dir, holder⟩ := h.holder
    obtain rfl := Option.some.inj ((holder.place? h.dhParam_child).symm.trans isPlace)
    -- what stood on the way before was the certificate, and not the parameters
    obtain ⟨l, m, before⟩ := h.locates_first
    obtain ⟨_, _, _, same, differ⟩ :=
      h.walk_through changed holder (by simp) (locate_eq_ok.mp before).2 onWay
    cases same
    -- now the way ends at the parameters
    obtain ⟨l', m', after⟩ := read_eq_ok.mp read
    have arrives := arrives_of_walk (by simp) _ _ _ (locate_eq_ok.mp after).2
    rw [origin_congr placed.start] at arrives
    cases arrives.eq_file (placed.mem_walkWay onWay) placed.file
    exact differ rfl
  · intro apart
    cases changed : d.changed with
    | false =>
      obtain rfl := course.untouched changed
      exact h.reads_first
    | true =>
      obtain ⟨place, placed⟩ := course.placed changed
      refine placed.rewrites.read (fun p hp => ?_) h.reads_first
      rw [List.mem_singleton.mp hp]
      exact apart changed

/-- A certificate that was just written stands right in the directory. -/
theorem stands (h : s.StoredBoth name dhName pem dh t t₁ t₂ c d) (written : c.changed = true)
    (holder : t₁.HasDirectory s.directory dir) :
    t₁.get ((fileName name ++ ".pem") :: dir) = some (.file ownerOnly pem) := by
  obtain ⟨_, _, course⟩ := h.certificate_course
  obtain ⟨place, placed⟩ := course.placed written
  have isPlace := placed.rewrites.place? (holder.place? h.certificate_child)
  obtain rfl := Option.some.inj (placed.isPlace.symm.trans isPlace)
  exact placed.file

/-- The certificate can be read when it goes by another name, if it was just written or no link is in
the directory. -/
theorem reads_certificate (h : s.StoredBoth name dhName pem dh t t₁ t₂ c d)
    (apart : fileName name ≠ dhName) (safe : c.changed = true ∨ t.Linkless s.directory) :
    t₂.read (s.certificatePath name) = .ok pem := by
  obtain ⟨_, _, _, course⟩ := h.dhParam_course
  have entries : fileName name ++ ".pem" ≠ dhName ++ ".pem" := by simpa using apart
  cases changed : d.changed with
  | false =>
    obtain rfl := course.untouched changed
    exact h.reads_first
  | true =>
    obtain ⟨place, placed⟩ := course.placed changed
    obtain ⟨l, m, found⟩ := h.locates_first
    refine read_eq_ok.mpr ?_
    rcases safe with written | linkless
    · obtain ⟨short, dir, holder, _⟩ :=
        hasDirectory_of_locate h.certificate_child (s.pathOf_noSlash _) found
      exact ⟨_, _, placed.locate_apart (h.straight changed) h.certificate_child (s.pathOf_noSlash _)
        h.dhParam_child entries holder (locate_eq_ok.mp found).1 short (h.stands written holder)⟩
    · obtain ⟨_, _, before⟩ := h.certificate_course
      exact ⟨l, m, placed.locate_beside (before.linkless linkless) h.certificate_child
        (s.pathOf_noSlash _) h.dhParam_child entries found⟩

/-- Under one name there is one file, and it holds the parameters. -/
theorem reads_certificate_same_name (h : s.StoredBoth name dhName pem dh t t₁ t₂ c d)
    (same : fileName name = dhName) : t₂.read (s.certificatePath name) = .ok dh := by
  have paths : s.certificatePath name = s.dhParamPath dhName := by
    rw [dhParamPath, certificatePath, same]
  rw [paths, h.reads_dhParam]

end StoredBoth

variable {s : MaterialStore} {name dhName : String} {pem dh : Bytes} {t t₁ t₂ : FileTree}
  {c d : Stored}

/-- **What can be read when a certificate and parameters were stored.** The parameters can be read in any
case. The certificate can be read just when the parameters were left alone or put off the way to it. When
the two go by one name, that is just when they have the same content. When they go by two, it is so if the
certificate was written too, and in a directory without links. -/
theorem storedBoth_reads (h : s.StoredBoth name dhName pem dh t t₁ t₂ c d) :
    t₂.read (s.dhParamPath dhName) = .ok dh ∧
      (t₂.read (s.certificatePath name) = .ok pem ↔
        (d.changed = true → t₁.Apart (s.dhParamPath dhName) (s.certificatePath name))) ∧
      (fileName name = dhName → (t₂.read (s.certificatePath name) = .ok pem ↔ pem = dh)) ∧
      (fileName name ≠ dhName → c.changed = true ∨ t.Linkless s.directory →
        t₂.read (s.certificatePath name) = .ok pem) := by
  refine ⟨h.reads_dhParam, h.reads_certificate_iff, fun same => ?_, h.reads_certificate⟩
  rw [h.reads_certificate_same_name same, Except.ok.injEq, eq_comm]

/-! ## The material of one snapshot -/

/-- This is how the material of a snapshot is stored when both parts of it are new. -/
theorem storedBoth_of_syncMaterial {σ : Type} {collaborators : Collaborators σ}
    {before after : Session σ} {last : Option Snapshot} {snapshot : Snapshot}
    {certificate : Certificate} {parameters : DhParam}
    (sync : before.syncMaterial collaborators s last snapshot = (after, .ok ()))
    (hasCertificate : snapshot.defaultCertificate = some certificate)
    (hasDhParam : snapshot.dhParam = some parameters)
    (newCertificate :
      (MaterialKey.of last).certificate ≠ (MaterialKey.of (some snapshot)).certificate)
    (newDhParam : (MaterialKey.of last).dhParam ≠ (MaterialKey.of (some snapshot)).dhParam)
    (honest : ∀ world, (collaborators.disk world).1 .readFile ≠ some .notFound)
    (free : CollisionFree
      (InPlay before.tree (Utf8.encode certificate.pem) (Utf8.encode parameters.content))) :
    ∃ t₁ c d, s.StoredBoth certificate.name parameters.name (Utf8.encode certificate.pem)
      (Utf8.encode parameters.content) before.tree t₁ after.tree c d := by
  rw [Session.syncMaterial, hasCertificate, hasDhParam] at sync
  dsimp only at sync
  rw [if_neg newCertificate] at sync
  split at sync
  · simp at sync
  · rename_i between first
    rw [if_neg newDhParam] at sync
    unfold Session.syncCertificate at first
    unfold Session.syncDhParam at sync
    dsimp only at first sync
    split at first
    · rename_i c firstOk
      cases first
      split at sync
      · rename_i d secondOk
        cases sync
        exact ⟨_, c, d, ⟨_, Prod.ext rfl firstOk⟩, ⟨_, honest _, Prod.ext rfl secondOk⟩, free⟩
      · simp at sync
    · simp at first

/-! ## Sample runs -/

/-- What storing a certificate and then parameters in `ssl` comes to. -/
def inTurn (t : FileTree) (name dhName : String) (pem dh : Bytes) :
    (FileTree × Except StoreError Stored) × (FileTree × Except StoreError Stored) :=
  let first := storeCertificate ⟨"ssl"⟩ t noFaults name pem
  (first, storeDhParam ⟨"ssl"⟩ first.1 noFaults dhName dh)

theorem storedBoth_inTurn (free : CollisionFree (InPlay t pem dh))
    (runs : (inTurn t name dhName pem dh).1.2 = .ok c ∧ (inTurn t name dhName pem dh).2.2 = .ok d) :
    StoredBoth ⟨"ssl"⟩ name dhName pem dh t (inTurn t name dhName pem dh).1.1
      (inTurn t name dhName pem dh).2.1 c d where
  certificate := ⟨noFaults, by rw [← runs.1, inTurn]⟩
  dhParam := ⟨noFaults, by simp [noFaults], by rw [← runs.2, inTurn]⟩
  free := free

/-- Contents without a collision. -/
def fewContents : List Bytes := [[65], [66], [67]]

theorem collisionFree_of_few (pemFew : pem ∈ fewContents) (dhFew : dh ∈ fewContents)
    (files : ∀ e ∈ t.entries, ∀ m b, e.2 = .file m b → b ∈ fewContents) :
    CollisionFree (InPlay t pem dh) := by
  have listed : ∀ b, InPlay t pem dh b → b ∈ fewContents := by
    rintro b (rfl | rfl | ⟨l, m, file⟩)
    · exact pemFew
    · exact dhFew
    · rw [FileTree.get] at file
      split at file
      · simp at file
      · exact files _ (mem_of_nodeAt file) m b rfl
  exact collisionFree_of_nodup listed (by decide +kernel)

/-- A certificate and parameters that are stored in a directory without links. -/
theorem unlinked_storedBoth (dhName : String) (runs :
    (inTurn unlinked "site" dhName [66] [67]).1.2 = .ok c ∧
      (inTurn unlinked "site" dhName [66] [67]).2.2 = .ok d) :
    StoredBoth ⟨"ssl"⟩ "site" dhName [66] [67] unlinked (inTurn unlinked "site" dhName [66] [67]).1.1
      (inTurn unlinked "site" dhName [66] [67]).2.1 c d := by
  refine storedBoth_inTurn (collisionFree_of_few (by decide) (by decide) ?_) runs
  simp [unlinked, fewContents]

/-- Both can be read under their names. -/
theorem unlinked_reads :
    StoredBoth ⟨"ssl"⟩ "site" "dhparam" [66] [67] unlinked
        (inTurn unlinked "site" "dhparam" [66] [67]).1.1
        (inTurn unlinked "site" "dhparam" [66] [67]).2.1
        ⟨"ssl/site.pem", true⟩ ⟨"ssl/dhparam.pem", true⟩ ∧
      (inTurn unlinked "site" "dhparam" [66] [67]).2.1.read "ssl/site.pem" = .ok [66] ∧
      (inTurn unlinked "site" "dhparam" [66] [67]).2.1.read "ssl/dhparam.pem" = .ok [67] := by
  have both : StoredBoth _ _ _ _ _ _ _ _ ⟨"ssl/site.pem", true⟩ ⟨"ssl/dhparam.pem", true⟩ :=
    unlinked_storedBoth "dhparam" (by decide +kernel)
  obtain ⟨dhParam, _, _, certificate⟩ := storedBoth_reads both
  exact ⟨both, certificate (by decide) (Or.inl rfl), dhParam⟩

/-- The path of a certificate is a link to the file of parameters. -/
def joined : FileTree where
  entries := [(["ssl"], .directory), (["dhparam.pem", "ssl"], .file readableByAll [65]),
    (["site.pem", "ssl"], .link "dhparam.pem")]
  start := []

theorem joined_storedBoth :
    StoredBoth ⟨"ssl"⟩ "site" "dhparam" [65] [66] joined (inTurn joined "site" "dhparam" [65] [66]).1.1
      (inTurn joined "site" "dhparam" [65] [66]).2.1 ⟨"ssl/site.pem", false⟩
      ⟨"ssl/dhparam.pem", true⟩ := by
  refine storedBoth_inTurn (collisionFree_of_few (by decide) (by decide) ?_) (by decide +kernel)
  simp [joined, fewContents]

/-- **A certificate may be lost to the parameters.** Under other names that takes a link from its path to
their file, and without links it takes the same name. -/
theorem certificate_lost :
    (¬∀ (s : MaterialStore) (name dhName : String) (pem dh : Bytes) (t t₁ t₂ : FileTree)
        (c d : Stored), fileName name ≠ dhName → s.StoredBoth name dhName pem dh t t₁ t₂ c d →
      t₂.read (s.certificatePath name) = .ok pem ∧ t₂.read (s.dhParamPath dhName) = .ok dh) ∧
    ¬∀ (s : MaterialStore) (name dhName : String) (pem dh : Bytes) (t t₁ t₂ : FileTree)
        (c d : Stored), t.Linkless s.directory → s.StoredBoth name dhName pem dh t t₁ t₂ c d →
      t₂.read (s.certificatePath name) = .ok pem ∧ t₂.read (s.dhParamPath dhName) = .ok dh := by
  constructor
  · intro law
    have kept := (law _ _ _ _ _ _ _ _ _ _ (by decide) joined_storedBoth).1
    exact absurd kept (by decide +kernel)
  · intro law
    have both : StoredBoth _ _ _ _ _ _ _ _ ⟨"ssl/site.pem", true⟩ ⟨"ssl/site.pem", true⟩ :=
      unlinked_storedBoth "site" (by decide +kernel)
    -- one path cannot show two contents
    obtain ⟨certificate, dhParam⟩ := law _ _ _ _ _ _ _ _ _ _ unlinked_linkless both
    have shown := certificate.symm.trans dhParam
    simp at shown

end IngressControl.MaterialStore
