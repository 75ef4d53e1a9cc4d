import IngressControl.Proofs.FileTree.AtomicWrite
import Mathlib.Data.List.Infix

/-!
# What a write does not touch

`Rewrites` tells where a write can put a file, and lets directories be made anywhere. For a place that
has to stay empty that is not enough: a directory that comes to stand there is in the way of the file
that belongs there.

A write makes directories on the way to its file only. A trail is *clear* of a path when it is neither
the place of the path nor that of a directory on the way there. Whatever stands at a clear trail stays
as it is, and where nothing stands there nothing will.

`Grown` tells all that a write did that failed, and `Placed` all that one did that succeeded.
-/

namespace IngressControl.FileTree

/-- The file at a trail, if a file stands there: its mode and its content. -/
def fileAt (t : FileTree) (l : Trail) : Option (Nat × Bytes) :=
  match t.get l with
  | some (.file mode content) => some (mode, content)
  | _ => none

/-- A directory on the way to the file of a path is at a trail, or will be once it is made. -/
def Passes (t : FileTree) (path : String) (l : Trail) : Prop :=
  ∃ front ∈ (Path.parent path).inits,
    t.walkEnd maxLinks (Path.origin t path) (front ++ [.stay]) = some l

/-- Neither the file of a path nor a directory on the way to it is at a trail. -/
def Clear (t : FileTree) (path : String) (l : Trail) : Prop :=
  t.place? path ≠ some l ∧ ¬t.Passes path l

instance (t : FileTree) (path : String) (l : Trail) : Decidable (t.Passes path l) :=
  inferInstanceAs (Decidable (∃ front ∈ (Path.parent path).inits,
    t.walkEnd maxLinks (Path.origin t path) (front ++ [.stay]) = some l))

instance (t : FileTree) (path : String) (l : Trail) : Decidable (t.Clear path l) :=
  inferInstanceAs (Decidable (_ ∧ _))

variable {t t' t'' : FileTree} {ps : List String} {path : String} {l : Trail} {c : Bytes}
  {faults : Faults}

theorem fileAt_congr (h : t'.get l = t.get l) : t'.fileAt l = t.fileAt l := by
  rw [fileAt, fileAt, h]

namespace Rewrites

/-- Files are put nowhere but at the places of the paths. -/
theorem fileAt (h : t.Rewrites ps t') (elsewhere : ∀ p ∈ ps, t.place? p ≠ some l) :
    t'.fileAt l = t.fileAt l := by
  rcases h.get l with same | ⟨missing, made⟩ | ⟨p, hp, place, _⟩
  · exact fileAt_congr same
  · rw [FileTree.fileAt, FileTree.fileAt, missing, made]
  · exact absurd place (elsewhere p hp)

/-- A directory that is on the way to a file now has been on that way before, or would have been. -/
theorem passes (h : t.Rewrites ps t') (passes : t'.Passes path l) : t.Passes path l := by
  obtain ⟨front, hfront, hend⟩ := passes
  rw [origin_congr h.start] at hend
  exact ⟨front, hfront, walkEnd_of_hardens h.hardens _ _ _ hend⟩

theorem clear (h : t.Rewrites ps t') (clear : t.Clear path l) : t'.Clear path l :=
  ⟨fun place => clear.1 (h.place? place), fun passes => clear.2 (h.passes passes)⟩

end Rewrites

/-! ## Directories on the way -/

/-- A directory is made where the walk along its steps ends. -/
theorem makeDirectory_get {base : Trail} {steps : List Step} (h : t.makeDirectory base steps = .ok t')
    (elsewhere : t.walkEnd maxLinks base (steps.reverse ++ [.stay]) ≠ some l) :
    t'.get l = t.get l := by
  obtain ⟨holder, name, above, rfl, hwalk, missing, rfl⟩ := makeDirectory_ok h
  have made := walkEnd_snoc (standing_of_missing missing) _ _ _ (walk_directory _ _ _ hwalk).1
  rw [get_insert _ _ _ _ (by simp), if_neg]
  rintro rfl
  exact elsewhere (by rw [List.reverse_cons, List.append_assoc]; exact made)

/-- The directories that are made are those on the way. -/
theorem makeDirectories_get (t : FileTree) (faults : Faults) (base : Trail) :
    ∀ (steps : List Step),
      (∀ front ∈ steps.reverse.inits, t.walkEnd maxLinks base (front ++ [.stay]) ≠ some l) →
      (t.makeDirectories faults base steps).1.get l = t.get l := by
  intro steps
  induction steps with
  | nil => exact fun _ => rfl
  | cons last above ih =>
    intro elsewhere
    have whole := elsewhere (last :: above).reverse (by simp)
    have fronts : ∀ front ∈ above.reverse.inits,
        t.walkEnd maxLinks base (front ++ [.stay]) ≠ some l := by
      intro front hfront
      refine elsewhere front ?_
      rw [List.mem_inits] at hfront ⊢
      rw [List.reverse_cons]
      exact hfront.trans (List.prefix_append _ _)
    obtain ⟨higher, reached, outcome⟩ := makeDirectories_cons t faults base last above
    have grown : t.Rewrites [] higher ∧ higher.get l = t.get l := by
      rcases reached with rfl | rfl
      · exact ⟨Rewrites.refl higher [], rfl⟩
      · exact ⟨makeDirectories_rewrites t faults base above, ih fronts⟩
    rcases outcome with same | made
    · rw [same]
      exact grown.2
    · -- the walk on the grown tree ends where it would have ended before
      refine (makeDirectory_get made fun ends => whole ?_).trans grown.2
      exact walkEnd_of_hardens grown.1.hardens _ _ _ ends

/-- Directories were made that were missing on the way to the file of a path. -/
structure Grown (t : FileTree) (path : String) (t' : FileTree) : Prop where
  start : t'.start = t.start
  get : ∀ l, t'.get l = t.get l ∨
    (t.Passes path l ∧ t.get l = none ∧ t'.get l = some .directory)

theorem Grown.refl (t : FileTree) (path : String) : t.Grown path t := ⟨rfl, fun _ => Or.inl rfl⟩

theorem Grown.get_of_not_passes (h : t.Grown path t') (elsewhere : ¬t.Passes path l) :
    t'.get l = t.get l :=
  (h.get l).resolve_right fun made => elsewhere made.1

theorem Grown.rewrites (h : t.Grown path t') : t.Rewrites [] t' :=
  ⟨h.start, fun l => (h.get l).imp_right fun made => Or.inl made.2⟩

/-- However far the disk lets it come, only directories on the way are made. -/
theorem makeDirectories_grown (t : FileTree) (faults : Faults) (path : String) :
    t.Grown path (t.makeDirectories faults (Path.origin t path) (Path.parent path).reverse).1 := by
  have made := makeDirectories_rewrites t faults (Path.origin t path) (Path.parent path).reverse
  refine ⟨made.start, fun l => ?_⟩
  rcases made.get l with same | ⟨missing, directory⟩ | ⟨_, none, _⟩
  · exact Or.inl same
  · by_cases passes : t.Passes path l
    · exact Or.inr ⟨passes, missing, directory⟩
    · refine Or.inl (makeDirectories_get t faults _ _ ?_)
      rw [List.reverse_reverse]
      exact fun front hfront hend => passes ⟨front, hfront, hend⟩
  · simp at none

/-! ## Writes -/

/-- The owner's file was put at the place of a path, and directories were made that were missing on the
way. -/
structure Placed (t : FileTree) (path : String) (c : Bytes) (place : Trail) (t' : FileTree) : Prop
    where
  start : t'.start = t.start
  isPlace : t.place? path = some place
  /-- No directory was there; a file or a link was replaced. -/
  free : t.get place ≠ some .directory
  file : t'.get place = some (.file ownerOnly c)
  elsewhere : ∀ l, l ≠ place → t'.get l = t.get l ∨
    (t.Passes path l ∧ t.get l = none ∧ t'.get l = some .directory)
  /-- A straight path leads to the file. -/
  leads : t.Straight path → ∀ follow, t'.locate follow path = .ok (.file place ownerOnly c)
  /-- One that is not leads to no file any more. -/
  straight : ∀ {follow l m b}, t'.locate follow path = .ok (.file l m b) → t.Straight path
  /-- That happens to links only. -/
  crooked : ¬t.Straight path → ∃ target, t.get place = some (.link target)

theorem Placed.rewrites {place : Trail} (h : t.Placed path c place t') : t.Rewrites [path] t' := by
  refine ⟨h.start, fun l => ?_⟩
  by_cases same : l = place
  · rw [same]
    exact Or.inr (Or.inr ⟨path, by simp, h.isPlace, ownerOnly, c, h.file⟩)
  · rcases h.elsewhere l same with kept | ⟨_, missing, made⟩
    · exact Or.inl kept
    · exact Or.inr (Or.inl ⟨missing, made⟩)

theorem Placed.read {place : Trail} (h : t.Placed path c place t') (straight : t.Straight path) :
    t'.read path = .ok c :=
  read_eq_ok.mpr ⟨place, ownerOnly, h.leads straight true⟩

theorem Placed.get_of_clear {place : Trail} (h : t.Placed path c place t') (clear : t.Clear path l) :
    t'.get l = t.get l :=
  (h.elsewhere l fun same => clear.1 (same ▸ h.isPlace)).resolve_right fun made => clear.2 made.1

/-- **A write that fails makes directories at most.** -/
theorem writeAtomic_error_grown {e : IoError}
    (h : t.writeAtomic faults path c = (t', .error e)) : t.Grown path t' := by
  rcases writeAtomic_cases h with ⟨rfl, _⟩ | ⟨grown, _, hmade, ⟨_, start, same⟩ | ⟨failed, _⟩⟩
  · exact .refl _ _
  · have made := makeDirectories_grown t faults path
    rw [hmade] at made
    refine ⟨start.trans made.start, fun l => ?_⟩
    rw [same]
    exact made.get l
  · simp at failed

/-- **A write that succeeds makes directories at most, besides its file.** -/
theorem writeAtomic_ok_placed (h : t.writeAtomic faults path c = (t', .ok ())) :
    ∃ place, t.Placed path c place t' := by
  rcases writeAtomic_cases h with ⟨_, failed⟩ | ⟨grown, _, hmade, ⟨failed, _⟩ |
    ⟨_, temporary, written, holding, hmove⟩⟩
  · simp at failed
  · simp at failed
  · have made := makeDirectories_rewrites t faults (Path.origin t path) (Path.parent path).reverse
    have grows := makeDirectories_grown t faults path
    rw [hmade] at made grows
    obtain ⟨holder, name, moved⟩ := holding.moved hmove
    -- what stood in the tree stands when the directories are made
    have stands : ∀ {n : Node}, t.get (name :: holder) = some n →
        grown.get (name :: holder) = some n := by
      intro n there
      rcases grows.get (name :: holder) with same | ⟨_, missing, _⟩
      · rw [same, there]
      · rw [there] at missing; simp at missing
    refine ⟨name :: holder, moved.start.trans grows.start, made.place? moved.isPlace,
      fun directory => moved.free (stands directory), by rw [moved.get, if_pos rfl],
      fun l apart => ?_, fun straight => moved.leads (made.straight straight),
      fun found => made.straight_iff.mp (moved.straight found), fun crooked => ?_⟩
    · rw [moved.get, if_neg apart]
      exact grows.get l
    · obtain ⟨target, link⟩ := moved.crooked fun straight => crooked (made.straight_iff.mp straight)
      rcases grows.get (name :: holder) with same | ⟨_, _, directory⟩
      · exact ⟨target, same ▸ link⟩
      · rw [link] at directory; simp at directory

/-- A write that fails leaves every file as it was. -/
theorem writeAtomic_error {e : IoError} (h : t.writeAtomic faults path c = (t', .error e)) :
    t.Rewrites [] t' :=
  (writeAtomic_error_grown h).rewrites

/-- One that succeeds puts its file at the place of the path. It can be read there, when the path is
straight. -/
theorem writeAtomic_ok (h : t.writeAtomic faults path c = (t', .ok ())) :
    t.Rewrites [path] t' ∧ (t.Straight path → t'.read path = .ok c) := by
  obtain ⟨place, placed⟩ := writeAtomic_ok_placed h
  exact ⟨placed.rewrites, placed.read⟩

/-- Some writes along these paths, whether or not they succeeded. -/
structure Touches (t : FileTree) (ps : List String) (t' : FileTree) : Prop where
  rewrites : t.Rewrites ps t'
  /-- What is clear of all paths stays. -/
  get : ∀ l, (∀ p ∈ ps, t.Clear p l) → t'.get l = t.get l

namespace Touches

theorem refl (t : FileTree) (ps : List String) : t.Touches ps t :=
  ⟨Rewrites.refl t ps, fun _ _ => rfl⟩

theorem trans (h : t.Touches ps t') (h' : t'.Touches ps t'') : t.Touches ps t'' := by
  refine ⟨h.rewrites.trans h'.rewrites, fun l clear => ?_⟩
  rw [h'.get l fun p hp => h.rewrites.clear (clear p hp), h.get l clear]

theorem mono {qs : List String} (h : t.Touches ps t') (sub : ps ⊆ qs) : t.Touches qs t' :=
  ⟨h.rewrites.mono sub, fun l clear => h.get l fun p hp => clear p (sub hp)⟩

theorem of_grown (h : t.Grown path t') : t.Touches [path] t' :=
  ⟨h.rewrites.mono (by simp), fun _ clear => h.get_of_not_passes (clear path (by simp)).2⟩

theorem of_placed {place : Trail} (h : t.Placed path c place t') : t.Touches [path] t' :=
  ⟨h.rewrites, fun _ clear => h.get_of_clear (clear path (by simp))⟩

end Touches

/-- Behind some writes along other paths, a write along a path failed. -/
structure Misses (t : FileTree) (ps : List String) (path : String) (t' : FileTree) : Prop where
  rewrites : t.Rewrites ps t'
  get : ∀ l, (∀ p ∈ ps, t.Clear p l) → ¬t.Passes path l → t'.get l = t.get l

/-- Behind some writes along other paths, a write along a path put its file in place. -/
structure Puts (t : FileTree) (ps : List String) (path : String) (c : Bytes) (t' : FileTree) :
    Prop where
  rewrites : t.Rewrites (path :: ps) t'
  place : ∃ place, t.place? path = some place ∧ t'.get place = some (.file ownerOnly c)
  read : t.Straight path → t'.read path = .ok c

theorem Misses.of_error {e : IoError} (h : t.writeAtomic faults path c = (t', .error e)) :
    t.Misses [] path t' :=
  have grown := writeAtomic_error_grown h
  ⟨grown.rewrites, fun _ _ elsewhere => grown.get_of_not_passes elsewhere⟩

theorem Puts.of_ok (h : t.writeAtomic faults path c = (t', .ok ())) : t.Puts [] path c t' := by
  obtain ⟨place, placed⟩ := writeAtomic_ok_placed h
  exact ⟨placed.rewrites, ⟨place, placed.isPlace, placed.file⟩, placed.read⟩

theorem Misses.behind (touches : t.Touches ps t') (h : t'.Misses [] path t'') :
    t.Misses ps path t'' := by
  refine ⟨touches.rewrites.trans (h.rewrites.mono (by simp)), fun l clear elsewhere => ?_⟩
  rw [h.get l (by simp) fun passes => elsewhere (touches.rewrites.passes passes),
    touches.get l clear]

theorem Puts.behind (touches : t.Touches ps t') (h : t'.Puts [] path c t'') :
    t.Puts ps path c t'' := by
  obtain ⟨place, hplace, file⟩ := h.place
  exact ⟨(touches.rewrites.mono (by simp)).trans (h.rewrites.mono (by simp)),
    ⟨place, touches.rewrites.place? hplace, file⟩,
    fun straight => h.read (touches.rewrites.straight straight)⟩

/-- A file that is not that of the other paths is the one that was put in place, or it is the one that
stood there. -/
theorem Puts.fileAt (h : t.Puts ps path c t') (elsewhere : ∀ p ∈ ps, t.place? p ≠ some l) :
    t'.fileAt l = t.fileAt l ∨
      (t.place? path = some l ∧ t'.fileAt l = some (ownerOnly, c)) := by
  obtain ⟨place, hplace, file⟩ := h.place
  by_cases same : l = place
  · refine Or.inr ⟨same ▸ hplace, ?_⟩
    rw [FileTree.fileAt, same, file]
  · refine Or.inl (h.rewrites.fileAt fun p hp => ?_)
    rcases List.mem_cons.mp hp with rfl | hp
    · rw [hplace]
      exact fun there => same (Option.some.inj there).symm
    · exact elsewhere p hp

end IngressControl.FileTree
