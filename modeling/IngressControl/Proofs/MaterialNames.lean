import IngressControl.Proofs.FileTree.Child
import IngressControl.Proofs.StoredMaterial

/-!
# Names of material

The name of a piece of material becomes the name of its file, with a suffix. The store takes plain names
only, which have no path in them; so the file is an entry of the store's directory, whatever else the
name holds. A certificate may have no name at all, and then goes by a placeholder, which is plain.
-/

namespace IngressControl.MaterialStore

/-- A name that a file in the directory can have, and that leads nowhere else. -/
structure Plain (name : String) : Prop where
  nonempty : name ≠ ""
  notStay : name ≠ "."
  notUp : name ≠ ".."
  chars : ∀ c ∈ name.toList, c ≠ '/' ∧ c ≠ '\\' ∧ c ≠ '\x00'

variable {name : String}

theorem isValidName_iff : isValidName name = true ↔ Plain name := by
  rw [isValidName]
  simp only [Bool.and_eq_true, Bool.not_eq_true', List.any_eq_false, Bool.or_eq_true,
    decide_eq_true_eq, not_or, and_assoc]
  exact ⟨fun ⟨nonempty, notStay, notUp, chars⟩ => ⟨nonempty, notStay, notUp, chars⟩,
    fun h => ⟨h.nonempty, h.notStay, h.notUp, h.chars⟩⟩

/-- A certificate is stored just when its file goes by a plain name. -/
theorem takesCertificate_iff : takesCertificate name = true ↔ Plain (fileName name) := by
  rw [takesCertificate_eq, isValidName_iff]

/-- The path of a file never asks for a directory. -/
theorem pathOf_noSlash (store : MaterialStore) (name : String) :
    Path.endsWithSlash (store.pathOf name) = false := by
  obtain ⟨front, whole⟩ : ∃ front, store.pathOf name = front ++ ".pem" := by
    rw [pathOf, Path.join]
    split
    · exact ⟨name, rfl⟩
    · split
      · exact ⟨store.directory ++ name, by rw [String.append_assoc]⟩
      · exact ⟨store.directory ++ "/" ++ name, by simp only [String.append_assoc]⟩
  rw [whole, Path.endsWithSlash]
  simp [List.getLast?_append]

/-- A path is right in the directory, at the file of a plain name. -/
structure Confines (store : MaterialStore) (name path : String) : Prop where
  plain : Plain name
  child : Path.Child store.directory path (name ++ ".pem")

theorem Plain.confines (h : Plain name) (store : MaterialStore) :
    store.Confines name (store.pathOf name) := by
  have chars : (name ++ ".pem").toList = name.toList ++ ['.', 'p', 'e', 'm'] := by simp
  refine ⟨h, Path.child_join ?_ ?_ ?_⟩
  · rw [Ne, ← String.toList_inj, chars]
    simp
  · rw [chars]
    simpa using fun slash => (h.chars '/' slash).1 rfl
  · -- the suffix keeps it apart from the names that are other steps
    have down : Path.step (name.toList ++ ['.', 'p', 'e', 'm']) =
        .down (String.ofList (name.toList ++ ['.', 'p', 'e', 'm'])) := by
      rw [Path.step, if_neg, if_neg] <;> intro same <;>
        exact absurd (congrArg List.getLast? same) (by simp)
    rw [chars, down, ← chars, String.ofList_toList]

end IngressControl.MaterialStore
