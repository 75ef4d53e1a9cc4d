import IngressControl.Proofs.FileTree.Way

/-!
# Entries of a directory

Joining a name to the path of a directory does not always lead to an entry of that directory: an absolute
name leads anywhere, and one with slashes or `..` in it leads away. `Path.Child` says of a path that it
is the directory's own with one step more, down to an entry. Wherever the directory leads then, through
whatever links, the place of the path is right in it (`place?_child`).
-/

namespace IngressControl

namespace Path

/-- A path is that of an entry of a directory: it starts where the directory's path does and takes its
steps, and then one more down to the entry. -/
structure Child (directory path entry : String) : Prop where
  isAbsolute : Path.isAbsolute path = Path.isAbsolute directory
  steps : Path.steps path = Path.steps directory ++ [.down entry]

variable {directory entry : String}

theorem check_ne_notFound {path : String} (named : path ≠ "") : check path ≠ .error .notFound := by
  unfold check
  rw [if_neg named]
  split
  · simp
  · split <;> simp

theorem Child.ne_empty {path : String} (h : Child directory path entry) : path ≠ "" := by
  rintro rfl
  have none : Path.steps "" = [] := by decide
  have own := h.steps
  rw [none] at own
  simp at own

theorem steps_append_slash (as bs : List Char) :
    steps (String.ofList (as ++ '/' :: bs)) = steps (String.ofList as) ++ steps (String.ofList bs) := by
  simp only [steps, String.toList_ofList, splitAt_append, List.filter_append, List.map_append]

theorem steps_entry (some : entry ≠ "") (noSlash : '/' ∉ entry.toList)
    (down : step entry.toList = .down entry) : steps entry = [.down entry] := by
  have chars : entry.toList ≠ [] := by simpa using some
  rw [steps, splitAt_of_notMem noSlash]
  simp [chars, down]

/-- **A name that is a single step down is joined to an entry.** -/
theorem child_join (some : entry ≠ "") (noSlash : '/' ∉ entry.toList)
    (down : step entry.toList = .down entry) : Child directory (join directory entry) entry := by
  have own := steps_entry some noSlash down
  have relative : ¬Path.isAbsolute entry = true := by
    intro absolute
    exact noSlash (List.mem_of_mem_head? (of_decide_eq_true absolute))
  rw [join, if_neg relative]
  split
  · rename_i joined
    rcases joined with rfl | slash
    · rw [String.empty_append]
      exact ⟨eq_false_of_ne_true relative, own⟩
    · -- the slash at the end of the directory's path is the one between the names
      obtain ⟨front, chars⟩ := List.getLast?_eq_some_iff.mp (of_decide_eq_true slash)
      have whole : directory ++ entry = String.ofList (front ++ '/' :: entry.toList) := by
        rw [← String.toList_inj]
        simp [chars]
      have before : directory = String.ofList (front ++ '/' :: []) := by
        rw [← String.toList_inj, String.toList_ofList, chars]
      have same : steps directory = steps (String.ofList front) := by
        rw [before, steps_append_slash]
        exact List.append_nil _
      refine ⟨?_, ?_⟩
      · rw [whole, before]
        cases front <;> simp [Path.isAbsolute]
      · rw [whole, steps_append_slash, String.ofList_toList, own, same]
  · rename_i apart
    obtain ⟨named, _⟩ := not_or.mp apart
    have whole : directory ++ "/" ++ entry =
        String.ofList (directory.toList ++ '/' :: entry.toList) := by
      rw [← String.toList_inj]
      simp
    refine ⟨?_, ?_⟩
    · obtain ⟨c, cs, chars⟩ := List.exists_cons_of_ne_nil
        (show directory.toList ≠ [] by simpa using named)
      simp [Path.isAbsolute, String.toList_append, chars]
    · rw [whole, steps_append_slash, String.ofList_toList, String.ofList_toList, own]

end Path

namespace FileTree

/-- The directory that a path leads to, when missing directories count as made. -/
def leadsTo? (t : FileTree) (directory : String) : Option Trail :=
  t.walkEnd maxLinks (Path.origin t directory) (Path.steps directory ++ [.stay])

variable {directory path entry : String}

theorem origin_child (t : FileTree) (h : Path.Child directory path entry) :
    Path.origin t path = Path.origin t directory := by
  rw [Path.origin, Path.origin, h.isAbsolute]

theorem allSteps_child (h : Path.Child directory path entry)
    (noSlash : Path.endsWithSlash path = false) :
    Path.allSteps path = Path.steps directory ++ [.down entry] := by
  rw [Path.allSteps, if_neg (by simp [noSlash]), h.steps]

/-- The place of an entry is right in the directory. -/
theorem place?_child {t : FileTree} (h : Path.Child directory path entry) :
    t.place? path = (t.leadsTo? directory).map (entry :: ·) := by
  rw [place?, holderSteps, h.steps, List.getLast?_concat, List.dropLast_concat, origin_child t h]
  rfl

end FileTree

end IngressControl
