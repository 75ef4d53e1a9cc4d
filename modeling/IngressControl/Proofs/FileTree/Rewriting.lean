import IngressControl.Proofs.FileTree.Way

/-!
# Trees rewritten at some places

All that the controller does to a file tree is to make missing directories and to put files at the
places of certain paths. `Rewrites` says that of two trees. It can be chained, because the place of
a path stays where it is for as long as nobody blocks the way to it.

A path is *apart* from another one when its place is not on the other's way. Then writing it goes
unnoticed at the other one: what could be read there can be read there still, and no more than that.
-/

namespace IngressControl.FileTree

/-- `t'` is `t` with missing directories made and with files put at the places of some paths. -/
structure Rewrites (t : FileTree) (paths : List String) (t' : FileTree) : Prop where
  /-- The working directory is the same. -/
  start : t'.start = t.start
  /-- Each trail is as it was, or a directory was made there, or a file was put there. -/
  get : ∀ l, t'.get l = t.get l ∨ (t.get l = none ∧ t'.get l = some .directory) ∨
    ∃ p ∈ paths, t.place? p = some l ∧ ∃ m c, t'.get l = some (.file m c)

/-- The place of `p` is not on the way of `q`. -/
def Apart (t : FileTree) (p q : String) : Prop := ∀ l ∈ t.place? p, l ∉ t.way q

/-- The place of a path is not on the way to the directory that it is in. -/
def Straight (t : FileTree) (p : String) : Prop := ∀ l ∈ t.place? p, l ∉ t.holderWay p

/-- A file with this content stands where a path leads, or will lead once missing directories are
made. -/
def Shows (t : FileTree) (q : String) (c : Bytes) : Prop :=
  ∃ l, t.ending? q = some l ∧ ∃ m, t.get l = some (.file m c)

/-- No file stands where a path leads. -/
def Lacks (t : FileTree) (q : String) : Prop := ∀ c, ¬t.Shows q c

instance (t : FileTree) (p q : String) : Decidable (t.Apart p q) :=
  inferInstanceAs (Decidable (∀ l ∈ t.place? p, l ∉ t.way q))

instance (t : FileTree) (p : String) : Decidable (t.Straight p) :=
  inferInstanceAs (Decidable (∀ l ∈ t.place? p, l ∉ t.holderWay p))

theorem origin_congr {t t' : FileTree} (h : t'.start = t.start) (path : String) :
    Path.origin t' path = Path.origin t path := by
  rw [Path.origin, Path.origin, h]

/-! ## What rewriting leaves of ways and places -/

namespace Rewrites

variable {t t' t'' : FileTree} {ps : List String}

theorem refl (t : FileTree) (ps : List String) : t.Rewrites ps t :=
  ⟨rfl, fun _ => Or.inl rfl⟩

theorem mono {qs : List String} (h : t.Rewrites ps t') (hsub : ps ⊆ qs) : t.Rewrites qs t' := by
  refine ⟨h.start, fun l => ?_⟩
  rcases h.get l with same | made | ⟨p, hp, file⟩
  · exact Or.inl same
  · exact Or.inr (Or.inl made)
  · exact Or.inr (Or.inr ⟨p, hsub hp, file⟩)

theorem hardens (h : t.Rewrites ps t') : t.Hardens t' := by
  intro l
  rcases h.get l with same | ⟨missing, made⟩ | ⟨_, _, _, m, c, file⟩
  · exact Or.inl (by rw [standing, standing, same])
  · exact Or.inl (by rw [standing_of_missing missing, standing_of_get made])
  · exact Or.inr ⟨m, c, standing_of_get file⟩

theorem way_subset (h : t.Rewrites ps t') (q : String) : t'.way q ⊆ t.way q := by
  rw [way, way, origin_congr h.start]
  exact walkWay_subset h.hardens _ _ _

theorem holderWay_subset (h : t.Rewrites ps t') (q : String) : t'.holderWay q ⊆ t.holderWay q := by
  rw [holderWay, holderWay, origin_congr h.start]
  exact walkWay_subset h.hardens _ _ _

/-- The place of a path stays where it is, or the way to it is blocked. -/
theorem place? (h : t.Rewrites ps t') {p : String} {l : Trail} (hl : t'.place? p = some l) :
    t.place? p = some l := by
  unfold FileTree.place? at hl ⊢
  split at hl
  · rename_i name last
    obtain ⟨d, hd, rfl⟩ := Option.map_eq_some_iff.mp hl
    rw [origin_congr h.start] at hd
    rw [holderSteps] at hd ⊢
    rw [walkEnd_of_hardens h.hardens _ _ _ hd]
    rfl
  · simp at hl

/-- Where only directories were made, ways and places are the same. -/
theorem sameWay (h : t.Rewrites [] t') (p : String) :
    t'.place? p = t.place? p ∧ t'.holderWay p = t.holderWay p := by
  have standing : ∀ l, t'.standing l = t.standing l := by
    intro l
    rcases h.get l with same | ⟨missing, made⟩ | ⟨_, none, _⟩
    · rw [FileTree.standing, FileTree.standing, same]
    · rw [standing_of_missing missing, standing_of_get made]
    · simp at none
  obtain ⟨way, ends⟩ := walkWay_congr maxLinks (Path.origin t p) (holderSteps p)
    (fun l _ => standing l)
  rw [holderWay, holderWay, FileTree.place?, FileTree.place?, origin_congr h.start, way, ends]
  exact ⟨rfl, rfl⟩

theorem straight_iff (h : t.Rewrites [] t') {p : String} : t'.Straight p ↔ t.Straight p := by
  obtain ⟨place, way⟩ := h.sameWay p
  rw [Straight, Straight, place, way]

theorem apart (h : t.Rewrites ps t') {p q : String} (hpq : t.Apart p q) : t'.Apart p q :=
  fun l hl hmem => hpq l (h.place? hl) (h.way_subset q hmem)

theorem straight (h : t.Rewrites ps t') {p : String} (hp : t.Straight p) : t'.Straight p :=
  fun l hl hmem => hp l (h.place? hl) (h.holderWay_subset p hmem)

theorem trans (h : t.Rewrites ps t') (h' : t'.Rewrites ps t'') : t.Rewrites ps t'' := by
  refine ⟨h'.start.trans h.start, fun l => ?_⟩
  rcases h'.get l with same | ⟨missing, made⟩ | ⟨p, hp, hl, file⟩
  · rw [same]; exact h.get l
  · -- what was missing behind the first stage was missing before it
    refine Or.inr (Or.inl ⟨?_, made⟩)
    rcases h.get l with same | ⟨_, made'⟩ | ⟨_, _, _, _, _, file⟩
    · rw [← same]; exact missing
    · rw [missing] at made'; simp at made'
    · rw [missing] at file; simp at file
  · exact Or.inr (Or.inr ⟨p, hp, h.place? hl, file⟩)

end Rewrites

/-! ## What rewriting leaves of reading -/

theorem locate_eq_ok {t : FileTree} {follow : Bool} {q : String} {p : Place} :
    t.locate follow q = .ok p ↔
      Path.check q = .ok () ∧ t.walk follow maxLinks (Path.origin t q) (Path.allSteps q) = .ok p := by
  unfold locate
  cases Path.check q <;> simp

/-- A path can be read when it leads to a file. -/
theorem read_eq_ok {t : FileTree} {q : String} {c : Bytes} :
    t.read q = .ok c ↔ ∃ l m, t.locate true q = .ok (.file l m c) := by
  unfold read
  cases t.locate true q with
  | error e => simp
  | ok p => cases p <;> simp

/-- What can be read stands where the path leads. -/
theorem file_of_read {t : FileTree} {q : String} {c : Bytes} (h : t.read q = .ok c) :
    ∃ l ∈ t.way q, t.ending? q = some l ∧ ∃ m, t.get l = some (.file m c) := by
  obtain ⟨l, m, hl⟩ := read_eq_ok.mp h
  obtain ⟨hway, hend, hget⟩ := walk_file _ _ _ (locate_eq_ok.mp hl).2
  exact ⟨l, hway, hend, m, hget⟩

namespace Rewrites

variable {t t' : FileTree} {ps : List String} {q : String}

/-- On the way of a path that is apart from all that was written, at most directories are new. -/
theorem get_way (h : t.Rewrites ps t') (apart : ∀ p ∈ ps, t.Apart p q) {l : Trail}
    (hl : l ∈ t.way q) :
    t'.get l = t.get l ∨ (t.get l = none ∧ t'.get l = some .directory) := by
  rcases h.get l with same | made | ⟨p, hp, place, _⟩
  · exact Or.inl same
  · exact Or.inr made
  · exact absurd hl (apart p hp l place)

/-- **What can be read apart from all that was written can be read still.** -/
theorem read (h : t.Rewrites ps t') (apart : ∀ p ∈ ps, t.Apart p q) {c : Bytes}
    (hr : t.read q = .ok c) : t'.read q = .ok c := by
  obtain ⟨l, m, hl⟩ := read_eq_ok.mp hr
  obtain ⟨hcheck, hw⟩ := locate_eq_ok.mp hl
  refine read_eq_ok.mpr ⟨l, m, locate_eq_ok.mpr ⟨hcheck, ?_⟩⟩
  rw [origin_congr h.start]
  refine walk_kept (by simp) _ _ _ (fun k hk hthere => ?_) hw
  rcases h.get_way apart hk with same | ⟨missing, _⟩
  · exact same
  · exact absurd missing hthere

/-- Such a path leads where it led. -/
theorem ending? (h : t.Rewrites ps t') (apart : ∀ p ∈ ps, t.Apart p q) :
    t'.way q = t.way q ∧ t'.ending? q = t.ending? q := by
  rw [way, way, FileTree.ending?, FileTree.ending?, origin_congr h.start]
  refine walkWay_congr _ _ _ (fun l hl => ?_)
  rcases h.get_way apart hl with same | ⟨missing, made⟩
  · rw [standing, standing, same]
  · rw [standing_of_missing missing, standing_of_get made]

/-- What can be read apart from all that was written is not new. -/
theorem shows_of_read (h : t.Rewrites ps t') (apart : ∀ p ∈ ps, t.Apart p q) {c : Bytes}
    (hr : t'.read q = .ok c) : t.Shows q c := by
  obtain ⟨l, hway, hend, m, hget⟩ := FileTree.file_of_read hr
  obtain ⟨same_way, same_end⟩ := h.ending? apart
  rw [same_way] at hway
  refine ⟨l, same_end ▸ hend, m, ?_⟩
  rcases h.get_way apart hway with same | ⟨_, made⟩
  · rw [← same]; exact hget
  · rw [hget] at made; simp at made

end Rewrites

end IngressControl.FileTree
