import IngressControl.Proofs.FileTree.Arrival
import IngressControl.Proofs.FileTree.Child
import IngressControl.Proofs.FileTree.Untouched

/-!
# Files side by side

Two files of one directory do not get in each other's way, unless a link leads from the one to the other
or is on the way to the directory. A file that stands right in the directory is found still when another
entry is written, as long as that entry is not on the way to the directory (`Placed.locate_apart`). In a
directory without links it never is, and all that is found there stands right in it; so what can be read
there can be read still, whatever is written beside it (`Placed.locate_beside`).

An entry that is on the way to a place cannot be missing: it leads to that place, or to a directory
(`HasDirectory.read_entry`).
-/

namespace IngressControl

namespace FileTree

variable {t t' : FileTree} {directory path other entry beside : String} {l d place : Trail} {m : Nat}
  {b c : Bytes}

/-- The directory of a path is there. -/
def HasDirectory (t : FileTree) (directory : String) (d : Trail) : Prop :=
  t.walk true maxLinks (Path.origin t directory) (Path.steps directory ++ [.stay]) = .ok (.directory d)

/-- A file that is found by an entry of a directory stands right in it, or a link by that name does. -/
theorem hasDirectory_of_locate (child : Path.Child directory path entry)
    (noSlash : Path.endsWithSlash path = false) (found : t.locate true path = .ok (.file l m b)) :
    ¬255 < entry.utf8ByteSize ∧ ∃ d, t.HasDirectory directory d ∧
      ((l = entry :: d ∧ t.get l = some (.file m b)) ∨
        ∃ target, t.get (entry :: d) = some (.link target)) := by
  obtain ⟨_, walk⟩ := locate_eq_ok.mp found
  rw [allSteps_child child noSlash, origin_child t child] at walk
  exact walk_unsnoc _ _ _ walk

namespace HasDirectory

theorem leadsTo? (h : t.HasDirectory directory d) : t.leadsTo? directory = some d :=
  (walk_directory _ _ _ h).1

theorem place? (h : t.HasDirectory directory d) (child : Path.Child directory path entry) :
    t.place? path = some (entry :: d) := by
  rw [place?_child child, h.leadsTo?, Option.map_some]

theorem locate (h : t.HasDirectory directory d) (child : Path.Child directory path entry)
    (noSlash : Path.endsWithSlash path = false) (check : Path.check path = .ok ())
    (short : ¬255 < entry.utf8ByteSize) (file : t.get (entry :: d) = some (.file m b)) :
    t.locate true path = .ok (.file (entry :: d) m b) := by
  refine locate_eq_ok.mpr ⟨check, ?_⟩
  rw [allSteps_child child noSlash, origin_child t child]
  exact walk_snoc short file _ _ _ h

theorem arrives (h : t.HasDirectory directory d) :
    t.Arrives (Path.origin t directory) (Path.steps directory) (.directory d) := by
  have whole : t.Arrives (Path.origin t directory) (Path.steps directory ++ [.stay]) (.directory d) :=
    arrives_of_walk (by simp) _ _ _ h
  obtain ⟨_, before, stays⟩ := whole.split (List.cons_ne_nil _ _)
  cases stays with
  | stay behind =>
    cases behind
    exact before

/-- **An entry that is looked up on the way to a place is there.** It cannot be read but as the file that
the place is. -/
theorem read_entry (h : t.HasDirectory directory d) (child : Path.Child directory path entry)
    (noSlash : Path.endsWithSlash path = false) {links : Nat} {trail : Trail} {steps : List Step}
    {p : Place} (arrives : t.Arrives trail steps p)
    (onWay : entry :: d ∈ t.walkWay links trail steps) :
    t.read path ≠ .error .notFound ∧ ∀ b, t.read path = .ok b → ∃ l m, p = .file l m b := by
  obtain ⟨q, found, ends⟩ := arrives.entry onWay
  have whole : t.Arrives (Path.origin t path) (Path.allSteps path) q := by
    rw [origin_child t child, allSteps_child child noSlash]
    exact h.arrives.append found
  rw [read, FileTree.locate]
  cases check : Path.check path with
  | error e =>
    refine ⟨?_, by simp⟩
    rintro ⟨⟩
    exact Path.check_ne_notFound child.ne_empty check
  | ok u =>
    dsimp only
    rcases whole.walk maxLinks with walk | walk
    · rw [walk]
      rcases whole.stands with ⟨d', rfl⟩ | ⟨l, m, b, rfl⟩
      · simp
      · refine ⟨by simp, ?_⟩
        rintro _ ⟨⟩
        rcases ends with rfl | ⟨d', other⟩
        · exact ⟨l, m, rfl⟩
        · simp at other
    · rw [walk]
      simp

end HasDirectory

/-! ## Writes beside a file -/

/-- What is there stays, but for what the file is put in place of. -/
theorem Placed.get_of_ne (h : t.Placed path c place t') (apart : l ≠ place) (there : t.get l ≠ none) :
    t'.get l = t.get l := by
  rcases h.elsewhere l apart with same | ⟨_, missing, _⟩
  · exact same
  · exact absurd missing there

/-- A file that is put on a way is on it. -/
theorem Placed.mem_walkWay (h : t.Placed path c place t') {links : Nat} {trail : Trail}
    {steps : List Step} (onWay : place ∈ t.walkWay links trail steps) :
    place ∈ t'.walkWay links trail steps := by
  refine mem_walkWay_congr (fun l apart => ?_) onWay
  rcases h.elsewhere l apart with same | ⟨_, missing, made⟩
  · rw [standing, standing, same]
  · rw [standing_of_missing missing, standing_of_get made]

/-- A path that has its place still when it was written is straight. -/
theorem Placed.straight_of_place (h : t.Placed path c place t') (still : t'.place? path = some l) :
    t.Straight path := by
  intro k isPlace onWay
  obtain rfl : place = k := Option.some.inj (h.isPlace.symm.trans isPlace)
  have onWay' := h.mem_walkWay onWay
  unfold FileTree.place? at still
  split at still
  · obtain ⟨d, ends, _⟩ := Option.map_eq_some_iff.mp still
    rw [origin_congr h.start] at ends
    exact walkEnd_free _ _ _ ends place onWay' ownerOnly c (standing_of_get h.file)
  · simp at still

/-- **A file that stands right in a directory is found still when another entry is written**, if that is
not on the way to the directory. -/
theorem Placed.locate_apart (h : t.Placed other c place t') (straight : t.Straight other)
    (child : Path.Child directory path entry) (noSlash : Path.endsWithSlash path = false)
    (neighbour : Path.Child directory other beside) (apart : entry ≠ beside)
    (holder : t.HasDirectory directory d) (check : Path.check path = .ok ())
    (short : ¬255 < entry.utf8ByteSize) (file : t.get (entry :: d) = some (.file m b)) :
    t'.locate true path = .ok (.file (entry :: d) m b) := by
  obtain rfl : place = beside :: d := Option.some.inj (h.isPlace.symm.trans (holder.place? neighbour))
  have holder' : t'.HasDirectory directory d := by
    rw [HasDirectory, origin_congr h.start]
    refine walk_kept (by simp) _ _ _ (fun k onWay there => h.get_of_ne ?_ there) holder
    rintro rfl
    refine straight _ h.isPlace ?_
    rw [holderWay, holderSteps, neighbour.steps, List.dropLast_concat, origin_child t neighbour]
    exact onWay
  refine holder'.locate child noSlash check short ?_
  rw [h.get_of_ne (by simpa using apart) (by simp [file]), file]

/-! ## Directories without links -/

/-- No entry of a directory is a link. -/
def Linkless (t : FileTree) (directory : String) : Prop :=
  ∀ d, t.leadsTo? directory = some d → ∀ entry target, t.get (entry :: d) ≠ some (.link target)

/-- A path in a directory without links is straight, if it can be written. -/
theorem Placed.straight_of_linkless (h : t.Placed path c place t')
    (child : Path.Child directory path entry) (linkless : t.Linkless directory) :
    t.Straight path := by
  by_contra crooked
  obtain ⟨target, link⟩ := h.crooked crooked
  have isPlace := h.isPlace
  rw [place?_child child] at isPlace
  obtain ⟨d, leads, rfl⟩ := Option.map_eq_some_iff.mp isPlace
  exact linkless d leads entry target link

/-- Writes make no links. -/
theorem Placed.linkless (h : t.Placed path c place t') (linkless : t.Linkless directory) :
    t'.Linkless directory := by
  intro d leads name target link
  have before : t.leadsTo? directory = some d := by
    rw [leadsTo?, origin_congr h.start] at leads
    exact walkEnd_of_hardens h.rewrites.hardens _ _ _ leads
  by_cases same : name :: d = place
  · rw [same, h.file] at link
    simp at link
  · rcases h.elsewhere _ same with kept | ⟨_, _, made⟩
    · exact linkless d before name target (kept ▸ link)
    · rw [link] at made
      simp at made

/-- **What is found in a directory without links is found still when another entry is written.** -/
theorem Placed.locate_beside (h : t.Placed other c place t') (linkless : t.Linkless directory)
    (child : Path.Child directory path entry) (noSlash : Path.endsWithSlash path = false)
    (neighbour : Path.Child directory other beside) (apart : entry ≠ beside)
    (found : t.locate true path = .ok (.file l m b)) :
    t'.locate true path = .ok (.file l m b) := by
  obtain ⟨short, d, holder, ⟨rfl, file⟩ | ⟨target, link⟩⟩ := hasDirectory_of_locate child noSlash found
  · exact h.locate_apart (h.straight_of_linkless neighbour linkless) child noSlash neighbour apart
      holder (locate_eq_ok.mp found).1 short file
  · exact absurd link (linkless d holder.leadsTo? entry target)

end FileTree

end IngressControl
