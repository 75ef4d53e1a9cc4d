import IngressControl.FileTree.Write
import IngressControl.Proofs.FileTree.Rewriting

/-!
# What a write in one move does to the tree

A write makes the directories on the way to its file, fills a temporary file, and moves that to the
place of the path. The temporary file stands where nothing stood before, and it is moved away or removed
again; so of a write that fails at most directories stay.

A path that can be written can be read back, unless it is not straight: a link in the last place of
a path through that same link is replaced by the file, and the path leads nowhere from then on.
-/

namespace IngressControl.FileTree

/-! ## Directories on the way -/

theorem directoryAt_eq_ok {t : FileTree} {trail d : Trail} {steps : List Step} :
    t.directoryAt trail steps = .ok d ↔
      t.walk true maxLinks trail (steps ++ [.stay]) = .ok (.directory d) := by
  unfold directoryAt
  cases t.walk true maxLinks trail (steps ++ [.stay]) with
  | error e => simp
  | ok p => cases p <;> simp

/-- What a directory that was made takes the place of, and where. -/
theorem makeDirectory_ok {t t' : FileTree} {base : Trail} {steps : List Step}
    (h : t.makeDirectory base steps = .ok t') :
    ∃ holder name above, steps = .down name :: above ∧
      t.walk true maxLinks base (above.reverse ++ [.stay]) = .ok (.directory holder) ∧
      t.get (name :: holder) = none ∧ t' = t.insert (name :: holder) .directory := by
  cases steps with
  | nil => simp [makeDirectory] at h
  | cons last above =>
    unfold makeDirectory at h
    dsimp only at h
    cases hdir : t.directoryAt base above.reverse with
    | error e => rw [hdir] at h; simp at h
    | ok holder =>
      rw [hdir] at h
      cases last with
      | stay => simp at h
      | up => simp at h
      | down name =>
        dsimp only at h
        split at h
        · simp at h
        · cases hget : t.get (name :: holder) with
          | some n => rw [hget] at h; simp at h
          | none =>
            rw [hget] at h
            simp only [Except.ok.injEq] at h
            exact ⟨holder, name, above, rfl, directoryAt_eq_ok.mp hdir, hget, h.symm⟩

theorem makeDirectory_rewrites {t t' : FileTree} {base : Trail} {steps : List Step}
    (h : t.makeDirectory base steps = .ok t') : t.Rewrites [] t' := by
  obtain ⟨holder, name, _, _, _, missing, rfl⟩ := makeDirectory_ok h
  refine ⟨rfl, fun l => ?_⟩
  rw [get_insert _ _ _ _ (by simp)]
  by_cases hl : l = name :: holder
  · rw [if_pos hl, hl]; exact Or.inr (Or.inl ⟨missing, rfl⟩)
  · rw [if_neg hl]; exact Or.inl rfl

/-- A directory that is made is the one that would be made on a disk that never fails. -/
theorem tryDirectory_ok {t t' : FileTree} {faults : Faults} {again : Bool} {base : Trail} {last : Step}
    {above : List Step} (h : t.tryDirectory faults again base last above = .ok t') :
    t.makeDirectory base (last :: above) = .ok t' := by
  unfold tryDirectory at h
  split at h
  · simp at h
  · exact h

/-- What one directory more comes to: it is made last, or not at all, and the tree below it is the one
that was there, or has the directories above it. -/
theorem makeDirectories_cons (t : FileTree) (faults : Faults) (base : Trail) (last : Step)
    (above : List Step) :
    ∃ higher, (higher = t ∨ higher = (t.makeDirectories faults base above).1) ∧
      ((t.makeDirectories faults base (last :: above)).1 = higher ∨
        higher.makeDirectory base (last :: above) =
          .ok (t.makeDirectories faults base (last :: above)).1) := by
  rw [makeDirectories]
  split
  · rename_i made hmade
    exact ⟨t, Or.inl rfl, Or.inr (tryDirectory_ok hmade)⟩
  · cases t.makeDirectories faults base above with
    | mk grown result =>
      cases result with
      | error e => exact ⟨grown, Or.inr rfl, Or.inl rfl⟩
      | ok u =>
        dsimp only
        split
        · rename_i made hmade
          exact ⟨grown, Or.inr rfl, Or.inr (tryDirectory_ok hmade)⟩
        · -- it was there already, or cannot be made
          split <;> exact ⟨grown, Or.inr rfl, Or.inl rfl⟩
  · split <;> exact ⟨t, Or.inl rfl, Or.inl rfl⟩

/-- Making the directories on a way makes nothing else, however far it comes. -/
theorem makeDirectories_rewrites (t : FileTree) (faults : Faults) (base : Trail) :
    ∀ (steps : List Step), t.Rewrites [] (t.makeDirectories faults base steps).1 := by
  intro steps
  induction steps with
  | nil => exact Rewrites.refl t []
  | cons last above ih =>
    obtain ⟨higher, reached, outcome⟩ := makeDirectories_cons t faults base last above
    have grown : t.Rewrites [] higher := by
      rcases reached with rfl | rfl
      · exact Rewrites.refl higher []
      · exact ih
    rcases outcome with same | made
    · rw [same]
      exact grown
    · exact grown.trans (makeDirectory_rewrites made)

/-! ## The temporary file -/

theorem freshTrail?_missing {t : FileTree} {directory l : Trail}
    (h : t.freshTrail? directory = some l) : l ≠ [] ∧ t.get l = none := by
  unfold freshTrail? at h
  have hmissing := List.find?_some h
  obtain ⟨n, _, rfl⟩ := List.mem_map.mp (List.mem_of_find?_eq_some h)
  exact ⟨by simp, by simpa using hmissing⟩

/-- A temporary file that is removed again leaves no trace. -/
theorem get_erase_insert {t : FileTree} {l : Trail} {n : Node} (hne : l ≠ [])
    (hmissing : t.get l = none) (k : Trail) : ((t.insert l n).erase l).get k = t.get k := by
  rw [get_erase _ _ _ hne, get_insert _ _ _ _ hne]
  by_cases hk : k = l
  · rw [if_pos hk, hk, hmissing]
  · rw [if_neg hk, if_neg hk]

theorem get_insert_insert {t : FileTree} {l : Trail} {n n' : Node} (hne : l ≠ []) (k : Trail) :
    ((t.insert l n).insert l n').get k = (t.insert l n').get k := by
  rw [get_insert _ _ _ _ hne, get_insert _ _ _ _ hne, get_insert _ _ _ _ hne]
  by_cases hk : k = l
  · rw [if_pos hk, if_pos hk]
  · rw [if_neg hk, if_neg hk, if_neg hk]

/-! ## The move -/

/-- What a move to a path comes to, when it succeeds. -/
theorem rename_ok {t t' : FileTree} {source : Trail} {n : Node} {path : String}
    (h : t.rename source n path = .ok t') :
    Path.check path = .ok () ∧ Path.endsWithSlash path = false ∧
      ∃ holder name, (Path.steps path).getLast? = some (.down name) ∧
        ¬255 < name.utf8ByteSize ∧ t.get (name :: holder) ≠ some .directory ∧
        t.walk true maxLinks (Path.origin t path) (holderSteps path) = .ok (.directory holder) ∧
        t' = (t.erase source).insert (name :: holder) n := by
  unfold rename at h
  cases hcheck : Path.check path with
  | error e => rw [hcheck] at h; simp at h
  | ok u =>
    rw [hcheck] at h
    dsimp only at h
    cases hdir : t.directoryAt (Path.origin t path) (Path.steps path).dropLast with
    | error e => rw [hdir] at h; simp at h
    | ok holder =>
      rw [hdir] at h
      dsimp only at h
      split at h
      · rename_i name last
        split at h
        · simp at h
        · rename_i short
          split at h
          · simp at h
          · rename_i noSlash
            split at h
            · simp at h
            · rename_i free
              simp only [Except.ok.injEq] at h
              exact ⟨rfl, by simpa using noSlash, holder, name, last, short, free,
                directoryAt_eq_ok.mp hdir, h.symm⟩
      · simp at h

/-- A tree with the temporary file in it. -/
structure Holding (t : FileTree) (temporary : Trail) (c : Bytes) (written : FileTree) : Prop where
  /-- Nothing stood where the temporary file is. -/
  fresh : temporary ≠ [] ∧ t.get temporary = none
  start : written.start = t.start
  get : ∀ k, written.get k = if k = temporary then some (.file ownerOnly c) else t.get k

/-- A tree with a file moved to the place of a path: an entry of the directory that the path has its
place in. -/
structure Moved (t : FileTree) (path : String) (c : Bytes) (holder : Trail) (name : String)
    (t' : FileTree) : Prop where
  check : Path.check path = .ok ()
  noSlash : Path.endsWithSlash path = false
  last : (Path.steps path).getLast? = some (.down name)
  short : ¬255 < name.utf8ByteSize
  walk : t.walk true maxLinks (Path.origin t path) (holderSteps path) = .ok (.directory holder)
  /-- No directory was there. -/
  free : t.get (name :: holder) ≠ some .directory
  start : t'.start = t.start
  get : ∀ l, t'.get l = if l = name :: holder then some (.file ownerOnly c) else t.get l

namespace Moved

variable {t t' : FileTree} {holder : Trail} {name : String} {c : Bytes} {path : String}

theorem isPlace (h : t.Moved path c holder name t') : t.place? path = some (name :: holder) := by
  rw [place?, h.last]
  dsimp only
  rw [(walk_directory _ _ _ h.walk).1]
  rfl

/-- A straight path leads to the file. -/
theorem leads (h : t.Moved path c holder name t') (straight : t.Straight path) (follow : Bool) :
    t'.locate follow path = .ok (.file (name :: holder) ownerOnly c) := by
  have walk' : t'.walk true maxLinks (Path.origin t path) (holderSteps path) =
      .ok (.directory holder) := by
    refine walk_kept (by simp) _ _ _ (fun l onWay _ => ?_) h.walk
    have elsewhere : l ≠ name :: holder := fun same => straight _ h.isPlace (same ▸ onWay)
    rw [h.get, if_neg elsewhere]
  refine locate_eq_ok.mpr ⟨h.check, ?_⟩
  rw [allSteps_eq h.noSlash h.last, origin_congr h.start]
  exact walk_snoc h.short (by rw [h.get, if_pos rfl]) _ _ _ walk'

/-- A path that is not straight leads to no file any more: a walk that finds one has come to the
directory without looking up the place. -/
theorem straight (h : t.Moved path c holder name t') {follow : Bool} {l : Trail} {m : Nat} {b : Bytes}
    (found : t'.locate follow path = .ok (.file l m b)) : t.Straight path := by
  obtain ⟨_, walk'⟩ := locate_eq_ok.mp found
  rw [allSteps_eq h.noSlash h.last, origin_congr h.start] at walk'
  obtain ⟨_, d, directory, _⟩ := walk_unsnoc _ _ _ walk'
  intro k place onWay
  obtain rfl : name :: holder = k := Option.some.inj (h.isPlace.symm.trans place)
  have onWay' : name :: holder ∈ t'.walkWay maxLinks (Path.origin t path) (holderSteps path) := by
    refine mem_walkWay_congr (fun l apart => ?_) onWay
    rw [standing, standing, h.get, if_neg apart]
  have goesOn := (walk_directory _ _ _ directory).2 _ onWay'
  exact goesOn.not_file ownerOnly c (by rw [h.get, if_pos rfl])

/-- That happens to links only: the place is on the way then, and is no directory. -/
theorem crooked (h : t.Moved path c holder name t') (crooked : ¬t.Straight path) :
    ∃ target, t.get (name :: holder) = some (.link target) := by
  obtain ⟨l, place, onWay⟩ : ∃ l ∈ t.place? path, l ∈ t.holderWay path := by
    simpa [Straight] using crooked
  rw [h.isPlace, Option.mem_def, Option.some.injEq] at place
  rcases (walk_directory _ _ _ h.walk).2 l onWay with directory | ⟨target, link⟩
  · exact absurd (place ▸ directory) h.free
  · exact ⟨target, place ▸ link⟩

end Moved

namespace Holding

variable {t t' written : FileTree} {temporary : Trail} {c : Bytes} {path : String}

theorem get_erase (h : t.Holding temporary c written) (k : Trail) :
    (written.erase temporary).get k = t.get k := by
  rw [FileTree.get_erase _ _ _ h.fresh.1, h.get k]
  by_cases hk : k = temporary
  · rw [if_pos hk, hk, h.fresh.2]
  · rw [if_neg hk, if_neg hk]

/-- A walk does not go on from the temporary file. -/
theorem get_of_goesOn (h : t.Holding temporary c written) {l : Trail} (goesOn : written.GoesOn l) :
    written.get l = t.get l := by
  rw [h.get l, if_neg]
  intro hl
  exact goesOn.not_file ownerOnly c (by rw [h.get l, if_pos hl])

/-- **The move puts the file at the place of the path and nothing anywhere else.** -/
theorem moved (h : t.Holding temporary c written)
    (hmove : written.rename temporary (.file ownerOnly c) path = .ok t') :
    ∃ holder name, t.Moved path c holder name t' := by
  obtain ⟨check, noSlash, holder, name, last, short, free, walk, rfl⟩ := rename_ok hmove
  obtain ⟨_, goesOn⟩ := walk_directory _ _ _ walk
  rw [origin_congr h.start] at walk goesOn
  have walk' : t.walk true maxLinks (Path.origin t path) (holderSteps path) =
      .ok (.directory holder) :=
    walk_kept (by simp) _ _ _ (fun l onWay _ => (h.get_of_goesOn (goesOn l onWay)).symm) walk
  refine ⟨holder, name, check, noSlash, last, short, walk', fun directory => ?_, h.start, fun l => ?_⟩
  · have elsewhere : name :: holder ≠ temporary := by
      intro same
      rw [same, h.fresh.2] at directory
      simp at directory
    exact free (by rw [h.get, if_neg elsewhere, directory])
  · rw [get_insert _ _ _ _ (by simp), h.get_erase]

end Holding

/-- A replacement that fails leaves the tree as it was; one that succeeds moved the temporary
file. -/
theorem replace_cases (t : FileTree) (faults : Faults) (directory : Trail) (path : String)
    (c : Bytes) :
    (∃ e t', t.replace faults directory path c = (t', .error e) ∧ t'.start = t.start ∧
        ∀ k, t'.get k = t.get k) ∨
      ∃ t' temporary written, t.replace faults directory path c = (t', .ok ()) ∧
        t.Holding temporary c written ∧
        written.rename temporary (.file ownerOnly c) path = .ok t' := by
  unfold replace
  cases faults .openTemporary with
  | some e => exact Or.inl ⟨e, t, rfl, rfl, fun _ => rfl⟩
  | none =>
    cases hfresh : t.freshTrail? directory with
    | none => exact Or.inl ⟨.exists, t, rfl, rfl, fun _ => rfl⟩
    | some temporary =>
      obtain ⟨hne, hmissing⟩ := freshTrail?_missing hfresh
      have holding : t.Holding temporary c ((t.insert temporary (.file ownerOnly [])).insert
          temporary (.file ownerOnly c)) := by
        refine ⟨⟨hne, hmissing⟩, rfl, fun k => ?_⟩
        rw [get_insert_insert hne, get_insert _ _ _ _ hne]
      dsimp only
      cases faults .writeTemporary with
      | some e =>
        -- from here on each failure removes the temporary file again
        exact Or.inl ⟨e, _, rfl, rfl, get_erase_insert hne hmissing⟩
      | none =>
        dsimp only
        cases faults .setMode with
        | some e => exact Or.inl ⟨e, _, rfl, rfl, holding.get_erase⟩
        | none =>
          cases faults .rename with
          | some e => exact Or.inl ⟨e, _, rfl, rfl, holding.get_erase⟩
          | none =>
            dsimp only
            cases hmove : ((t.insert temporary (.file ownerOnly [])).insert temporary
                (.file ownerOnly c)).rename temporary (.file ownerOnly c) path with
            | ok t' => exact Or.inr ⟨t', temporary, _, rfl, holding, hmove⟩
            | error e => exact Or.inl ⟨e, _, rfl, rfl, holding.get_erase⟩

/-! ## At the top -/

/-- A write fails before it does anything, or it makes the directories on the way; then it fails, or
it moves its temporary file. -/
theorem writeAtomic_cases {t t' : FileTree} {faults : Faults} {path : String} {c : Bytes}
    {r : Except IoError Unit} (h : t.writeAtomic faults path c = (t', r)) :
    (t' = t ∧ ∃ e, r = .error e) ∨
      ∃ grown result, t.makeDirectories faults (Path.origin t path) (Path.parent path).reverse =
          (grown, result) ∧
        (((∃ e, r = .error e) ∧ t'.start = grown.start ∧ ∀ k, t'.get k = grown.get k) ∨
          (r = .ok () ∧ ∃ temporary written, grown.Holding temporary c written ∧
            written.rename temporary (.file ownerOnly c) path = .ok t')) := by
  unfold writeAtomic at h
  split at h
  · cases h; exact Or.inl ⟨rfl, _, rfl⟩
  · refine Or.inr ?_
    split at h
    · rename_i grown e hmade
      cases h
      exact ⟨_, _, hmade, Or.inl ⟨⟨e, rfl⟩, rfl, fun _ => rfl⟩⟩
    · rename_i grown hmade
      refine ⟨_, _, hmade, ?_⟩
      split at h
      · rename_i e _
        cases h
        exact Or.inl ⟨⟨e, rfl⟩, rfl, fun _ => rfl⟩
      · rename_i directory _
        rcases replace_cases grown faults directory path c with
          ⟨e, t'', hr, start, same⟩ | ⟨t'', temporary, written, hr, holding, hmove⟩
        · rw [hr] at h
          cases h
          exact Or.inl ⟨⟨e, rfl⟩, start, same⟩
        · rw [hr] at h
          cases h
          exact Or.inr ⟨rfl, temporary, written, holding, hmove⟩

end IngressControl.FileTree
