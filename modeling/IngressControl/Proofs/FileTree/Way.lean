import IngressControl.FileTree.Walk

/-!
# The way of a walk

What a walk finds depends only on the trails that it looks up. This file lists those trails, and
says what a change of the tree may do elsewhere without the walk noticing.

The list is made for a tree in which missing directories count as made. A walk that fails today
because a directory is missing may succeed tomorrow, when somebody has made it; its way is the same
on both days. So the way of a path is a property that survives the making of directories, and the
only thing that can cut it short is a file put into it.
-/

namespace IngressControl.FileTree

/-- What stands at a trail, a missing directory counting as made. -/
def standing (t : FileTree) (trail : Trail) : Node := (t.get trail).getD .directory

/-- The trails that `steps` looks up when missing directories count as made. -/
def stepsWay (t : FileTree) (onLink : Trail → String → List Step → List Trail) :
    Trail → List Step → List Trail
  | _, [] => []
  | trail, .stay :: rest => t.stepsWay onLink trail rest
  | trail, .up :: rest => t.stepsWay onLink trail.tail rest
  | trail, .down name :: rest =>
    (name :: trail) ::
      match t.standing (name :: trail) with
      | .directory => t.stepsWay onLink (name :: trail) rest
      | .file _ _ => []
      | .link target => onLink trail target rest

/-- The trails that a walk following at most `links` links looks up. -/
def walkWay (t : FileTree) : (links : Nat) → Trail → List Step → List Trail
  | 0 => t.stepsWay fun _ _ _ => []
  | links + 1 => t.stepsWay fun trail target rest =>
    t.walkWay links (if Path.isAbsolute target then [] else trail) (Path.allSteps target ++ rest)

/-- Where `steps` ends when missing directories count as made. A file ends it in the last place and
blocks it in any other. -/
def stepsEnd (t : FileTree) (onLink : Trail → String → List Step → Option Trail) :
    Trail → List Step → Option Trail
  | trail, [] => some trail
  | trail, .stay :: rest => t.stepsEnd onLink trail rest
  | trail, .up :: rest => t.stepsEnd onLink trail.tail rest
  | trail, .down name :: rest =>
    match t.standing (name :: trail) with
    | .directory => t.stepsEnd onLink (name :: trail) rest
    | .file _ _ => if rest = [] then some (name :: trail) else none
    | .link target => onLink trail target rest

/-- Where a walk following at most `links` links ends. -/
def walkEnd (t : FileTree) : (links : Nat) → Trail → List Step → Option Trail
  | 0 => t.stepsEnd fun _ _ _ => none
  | links + 1 => t.stepsEnd fun trail target rest =>
    t.walkEnd links (if Path.isAbsolute target then [] else trail) (Path.allSteps target ++ rest)

/-- The trails looked up on the way to what a path leads to. -/
def way (t : FileTree) (path : String) : List Trail :=
  t.walkWay maxLinks (Path.origin t path) (Path.allSteps path)

/-- Where a path leads. -/
def ending? (t : FileTree) (path : String) : Option Trail :=
  t.walkEnd maxLinks (Path.origin t path) (Path.allSteps path)

/-- The steps to the directory in which a path has its place. -/
def holderSteps (path : String) : List Step := (Path.steps path).dropLast ++ [.stay]

/-- The last name of a path that does not end with a slash is the last step of all. -/
theorem allSteps_eq {path name : String} (noSlash : Path.endsWithSlash path = false)
    (last : (Path.steps path).getLast? = some (.down name)) :
    Path.allSteps path = (Path.steps path).dropLast ++ [.down name] := by
  obtain ⟨front, hfront⟩ := List.getLast?_eq_some_iff.mp last
  rw [Path.allSteps, if_neg (by simp [noSlash]), hfront, List.dropLast_concat]

/-- The trails looked up on the way to the directory in which a path has its place. -/
def holderWay (t : FileTree) (path : String) : List Trail :=
  t.walkWay maxLinks (Path.origin t path) (holderSteps path)

/-- The place of a path: where its last name belongs, whatever stands there. -/
def place? (t : FileTree) (path : String) : Option Trail :=
  match (Path.steps path).getLast? with
  | some (.down name) =>
    (t.walkEnd maxLinks (Path.origin t path) (holderSteps path)).map (name :: ·)
  | _ => none

theorem standing_of_get {t : FileTree} {l : Trail} {n : Node} (h : t.get l = some n) :
    t.standing l = n := by
  rw [standing, h]; rfl

theorem standing_of_missing {t : FileTree} {l : Trail} (h : t.get l = none) :
    t.standing l = .directory := by
  rw [standing, h]; rfl

/-! ## A walk that ends well ends where its way ends -/

theorem steps_file {t : FileTree} {on : Trail → String → List Step → Except IoError Place}
    {onWay : Trail → String → List Step → List Trail}
    {onEnd : Trail → String → List Step → Option Trail} {l : Trail} {m : Nat} {c : Bytes}
    (link : ∀ trail target rest, on trail target rest = .ok (.file l m c) →
      l ∈ onWay trail target rest ∧ onEnd trail target rest = some l ∧
        t.get l = some (.file m c)) :
    ∀ (steps : List Step) (trail : Trail), t.steps true on trail steps = .ok (.file l m c) →
      l ∈ t.stepsWay onWay trail steps ∧ t.stepsEnd onEnd trail steps = some l ∧
        t.get l = some (.file m c) := by
  intro steps
  induction steps with
  | nil => intro trail h; simp [FileTree.steps] at h
  | cons s rest ih =>
    intro trail h
    cases s with
    | stay => exact ih trail h
    | up => exact ih trail.tail h
    | down name =>
      rw [FileTree.steps] at h
      split at h
      · simp at h
      · cases hget : t.get (name :: trail) with
        | none => rw [hget] at h; dsimp only at h; split at h <;> simp at h
        | some n =>
          rw [hget] at h
          rw [stepsWay, stepsEnd, standing_of_get hget]
          cases n with
          | directory =>
            obtain ⟨h1, h2, h3⟩ := ih (name :: trail) h
            exact ⟨List.mem_cons_of_mem _ h1, h2, h3⟩
          | file mode content =>
            dsimp only at h
            split at h
            · rename_i hrest
              simp only [Except.ok.injEq, Place.file.injEq] at h
              obtain ⟨rfl, rfl, rfl⟩ := h
              exact ⟨List.mem_cons_self, by dsimp only; rw [if_pos hrest], hget⟩
            · simp at h
          | link target =>
            dsimp only at h
            rw [if_neg (by simp)] at h
            obtain ⟨h1, h2, h3⟩ := link trail target rest h
            exact ⟨List.mem_cons_of_mem _ h1, h2, h3⟩

/-- A walk that finds a file finds it where its way ends. -/
theorem walk_file {t : FileTree} {l : Trail} {m : Nat} {c : Bytes} :
    ∀ (links : Nat) (trail : Trail) (steps : List Step),
      t.walk true links trail steps = .ok (.file l m c) →
      l ∈ t.walkWay links trail steps ∧ t.walkEnd links trail steps = some l ∧
        t.get l = some (.file m c) := by
  -- each link that is met leads to a walk with one link less to follow
  intro links
  induction links with
  | zero =>
    intro trail steps h
    exact steps_file (fun _ _ _ hl => by simp at hl) steps trail h
  | succ links ih =>
    intro trail steps h
    exact steps_file (fun _ _ _ hl => ih _ _ hl) steps trail h

/-- A walk goes on from a trail: a directory stands there, or a link. -/
def GoesOn (t : FileTree) (l : Trail) : Prop :=
  t.get l = some .directory ∨ ∃ target, t.get l = some (.link target)

theorem GoesOn.not_file {t : FileTree} {l : Trail} (h : t.GoesOn l) (m : Nat) (c : Bytes) :
    t.get l ≠ some (.file m c) := by
  rcases h with directory | ⟨target, link⟩
  · rw [directory]; simp
  · rw [link]; simp

theorem steps_directory {t : FileTree} {on : Trail → String → List Step → Except IoError Place}
    {onWay : Trail → String → List Step → List Trail}
    {onEnd : Trail → String → List Step → Option Trail} {d : Trail}
    (link : ∀ trail target rest, on trail target rest = .ok (.directory d) →
      onEnd trail target rest = some d ∧ ∀ l ∈ onWay trail target rest, t.GoesOn l) :
    ∀ (steps : List Step) (trail : Trail), t.steps true on trail steps = .ok (.directory d) →
      t.stepsEnd onEnd trail steps = some d ∧ ∀ l ∈ t.stepsWay onWay trail steps, t.GoesOn l := by
  intro steps
  induction steps with
  | nil =>
    intro trail h
    simp only [FileTree.steps, Except.ok.injEq, Place.directory.injEq] at h
    exact ⟨by rw [stepsEnd, h], by simp [stepsWay]⟩
  | cons s rest ih =>
    intro trail h
    cases s with
    | stay => exact ih trail h
    | up => exact ih trail.tail h
    | down name =>
      rw [FileTree.steps] at h
      split at h
      · simp at h
      · cases hget : t.get (name :: trail) with
        | none => rw [hget] at h; dsimp only at h; split at h <;> simp at h
        | some n =>
          rw [hget] at h
          rw [stepsWay, stepsEnd, standing_of_get hget]
          cases n with
          | directory =>
            obtain ⟨h1, h2⟩ := ih (name :: trail) h
            refine ⟨h1, fun l hl => ?_⟩
            rcases List.mem_cons.mp hl with rfl | hl
            · exact Or.inl hget
            · exact h2 l hl
          | file mode content =>
            -- no walk to a directory goes through a file or ends in one
            dsimp only at h
            split at h <;> simp at h
          | link target =>
            dsimp only at h
            rw [if_neg (by simp)] at h
            obtain ⟨h1, h2⟩ := link trail target rest h
            refine ⟨h1, fun l hl => ?_⟩
            rcases List.mem_cons.mp hl with rfl | hl
            · exact Or.inr ⟨target, hget⟩
            · exact h2 l hl

/-- A walk to a directory ends where its way ends, and goes on from all that it looks up. -/
theorem walk_directory {t : FileTree} {d : Trail} :
    ∀ (links : Nat) (trail : Trail) (steps : List Step),
      t.walk true links trail steps = .ok (.directory d) →
      t.walkEnd links trail steps = some d ∧
        ∀ l ∈ t.walkWay links trail steps, t.GoesOn l := by
  intro links
  induction links with
  | zero =>
    intro trail steps h
    exact steps_directory (fun _ _ _ hl => by simp at hl) steps trail h
  | succ links ih =>
    intro trail steps h
    exact steps_directory (fun _ _ _ hl => ih _ _ hl) steps trail h

/-! ## A way to a directory is free of files -/

theorem stepsEnd_free {t : FileTree} {d : Trail}
    {onWay : Trail → String → List Step → List Trail}
    {onEnd : Trail → String → List Step → Option Trail}
    (link : ∀ trail target rest, onEnd trail target (rest ++ [.stay]) = some d →
      ∀ l ∈ onWay trail target (rest ++ [.stay]), ∀ m c, t.standing l ≠ .file m c) :
    ∀ (steps : List Step) (trail : Trail), t.stepsEnd onEnd trail (steps ++ [.stay]) = some d →
      ∀ l ∈ t.stepsWay onWay trail (steps ++ [.stay]), ∀ m c, t.standing l ≠ .file m c := by
  intro steps
  induction steps with
  | nil => intro trail _ l onWay; simp [stepsWay] at onWay
  | cons s rest ih =>
    intro trail h
    cases s with
    | stay => exact ih trail h
    | up => exact ih trail.tail h
    | down name =>
      rw [List.cons_append, stepsEnd] at h
      rw [List.cons_append, stepsWay]
      cases hn : t.standing (name :: trail) with
      | directory =>
        rw [hn] at h
        refine List.forall_mem_cons.mpr ⟨?_, ih _ h⟩
        simp [hn]
      | file mode content =>
        rw [hn] at h
        dsimp only at h
        rw [if_neg (by simp)] at h
        simp at h
      | link target =>
        rw [hn] at h
        refine List.forall_mem_cons.mpr ⟨?_, link trail target rest h⟩
        simp [hn]

/-- No file stands on a way that ends in a directory. -/
theorem walkEnd_free {t : FileTree} {d : Trail} :
    ∀ (links : Nat) (trail : Trail) (steps : List Step),
      t.walkEnd links trail (steps ++ [.stay]) = some d →
      ∀ l ∈ t.walkWay links trail (steps ++ [.stay]), ∀ m c, t.standing l ≠ .file m c := by
  intro links
  induction links with
  | zero => exact fun trail steps h => stepsEnd_free (fun _ _ _ hl => by simp at hl) steps trail h
  | succ links ih =>
    refine fun trail steps h => stepsEnd_free (fun trail target rest hl => ?_) steps trail h
    rw [← List.append_assoc] at hl ⊢
    exact ih _ _ hl

/-! ## A walk sees nothing but its way -/

theorem steps_kept {t t' : FileTree} {p : Place}
    {on on' : Trail → String → List Step → Except IoError Place}
    {onWay : Trail → String → List Step → List Trail} (there : ∀ l, p ≠ .vacant l)
    (link : ∀ trail target rest, (∀ l ∈ onWay trail target rest, t.get l ≠ none →
        t'.get l = t.get l) → on trail target rest = .ok p → on' trail target rest = .ok p) :
    ∀ (steps : List Step) (trail : Trail),
      (∀ l ∈ t.stepsWay onWay trail steps, t.get l ≠ none → t'.get l = t.get l) →
      t.steps true on trail steps = .ok p → t'.steps true on' trail steps = .ok p := by
  intro steps
  induction steps with
  | nil => intro trail _ h; exact h
  | cons s rest ih =>
    intro trail keep h
    cases s with
    | stay => exact ih trail keep h
    | up => exact ih trail.tail keep h
    | down name =>
      rw [FileTree.steps] at h ⊢
      split at h
      · simp at h
      · rename_i short
        rw [if_neg short]
        cases hget : t.get (name :: trail) with
        | none =>
          -- where nothing stands a walk can only end at a vacant place
          rw [hget] at h
          dsimp only at h
          split at h
          · simp only [Except.ok.injEq] at h
            exact absurd h.symm (there _)
          · simp at h
        | some n =>
          have hget' : t'.get (name :: trail) = some n := by
            rw [keep _ List.mem_cons_self (by rw [hget]; simp), hget]
          rw [hget] at h
          rw [hget']
          rw [stepsWay, standing_of_get hget] at keep
          cases n with
          | directory => exact ih _ (fun l hl => keep l (List.mem_cons_of_mem _ hl)) h
          | file mode content => exact h
          | link target =>
            dsimp only at h ⊢
            rw [if_neg (by simp)] at h ⊢
            exact link trail target rest (fun l hl => keep l (List.mem_cons_of_mem _ hl)) h

/-- **A walk sees nothing but its way.** Where all that stood on its way still stands, it ends as
it did. -/
theorem walk_kept {t t' : FileTree} {p : Place} (there : ∀ l, p ≠ .vacant l) :
    ∀ (links : Nat) (trail : Trail) (steps : List Step),
      (∀ l ∈ t.walkWay links trail steps, t.get l ≠ none → t'.get l = t.get l) →
      t.walk true links trail steps = .ok p → t'.walk true links trail steps = .ok p := by
  intro links
  induction links with
  | zero =>
    intro trail steps keep h
    exact steps_kept there (fun _ _ _ _ hl => by simp at hl) steps trail keep h
  | succ links ih =>
    intro trail steps keep h
    exact steps_kept there (fun _ _ _ hk hl => ih _ _ hk hl) steps trail keep h

theorem stepsWay_congr {t t' : FileTree} {onWay onWay' : Trail → String → List Step → List Trail}
    {onEnd onEnd' : Trail → String → List Step → Option Trail}
    (link : ∀ trail target rest, (∀ l ∈ onWay trail target rest, t'.standing l = t.standing l) →
      onWay' trail target rest = onWay trail target rest ∧
        onEnd' trail target rest = onEnd trail target rest) :
    ∀ (steps : List Step) (trail : Trail),
      (∀ l ∈ t.stepsWay onWay trail steps, t'.standing l = t.standing l) →
      t'.stepsWay onWay' trail steps = t.stepsWay onWay trail steps ∧
        t'.stepsEnd onEnd' trail steps = t.stepsEnd onEnd trail steps := by
  intro steps
  induction steps with
  | nil => intro trail _; exact ⟨rfl, rfl⟩
  | cons s rest ih =>
    intro trail same
    cases s with
    | stay => exact ih trail same
    | up => exact ih trail.tail same
    | down name =>
      rw [stepsWay] at same
      rw [stepsWay, stepsWay, stepsEnd, stepsEnd, same _ List.mem_cons_self]
      have rest_same := fun l hl => same l (List.mem_cons_of_mem _ hl)
      cases hn : t.standing (name :: trail) with
      | directory =>
        rw [hn] at rest_same
        obtain ⟨h1, h2⟩ := ih _ rest_same
        exact ⟨by dsimp only; rw [h1], h2⟩
      | file mode content => exact ⟨rfl, rfl⟩
      | link target =>
        rw [hn] at rest_same
        obtain ⟨h1, h2⟩ := link trail target rest rest_same
        exact ⟨by dsimp only; rw [h1], h2⟩

/-- The way and its end are those of before, where the same stands all along it. -/
theorem walkWay_congr {t t' : FileTree} :
    ∀ (links : Nat) (trail : Trail) (steps : List Step),
      (∀ l ∈ t.walkWay links trail steps, t'.standing l = t.standing l) →
      t'.walkWay links trail steps = t.walkWay links trail steps ∧
        t'.walkEnd links trail steps = t.walkEnd links trail steps := by
  intro links
  induction links with
  | zero =>
    intro trail steps same
    exact stepsWay_congr (fun _ _ _ _ => ⟨rfl, rfl⟩) steps trail same
  | succ links ih =>
    intro trail steps same
    exact stepsWay_congr (fun _ _ _ hs => ih _ _ hs) steps trail same

/-- What is on a way stays on it when nothing else is changed. -/
theorem mem_walkWay_congr {t t' : FileTree} {k : Trail}
    (same : ∀ l, l ≠ k → t'.standing l = t.standing l) {links : Nat} {trail : Trail}
    {steps : List Step} (onWay : k ∈ t.walkWay links trail steps) :
    k ∈ t'.walkWay links trail steps := by
  by_cases still : k ∈ t'.walkWay links trail steps
  · exact still
  · have sameWay : t.walkWay links trail steps = t'.walkWay links trail steps :=
      (walkWay_congr _ _ _ fun l hl => (same l fun eq => still (eq ▸ hl)).symm).1
    exact sameWay ▸ onWay

/-! ## Files put into a way only cut it short -/

/-- The same stands everywhere, but for files that took some places. -/
def Hardens (t t' : FileTree) : Prop :=
  ∀ l, t'.standing l = t.standing l ∨ ∃ m c, t'.standing l = .file m c

theorem stepsWay_subset {t t' : FileTree} (hard : t.Hardens t')
    {onWay onWay' : Trail → String → List Step → List Trail}
    (link : ∀ trail target rest, onWay' trail target rest ⊆ onWay trail target rest) :
    ∀ (steps : List Step) (trail : Trail),
      t'.stepsWay onWay' trail steps ⊆ t.stepsWay onWay trail steps := by
  intro steps
  induction steps with
  | nil => intro trail; exact List.Subset.refl _
  | cons s rest ih =>
    intro trail
    cases s with
    | stay => exact ih trail
    | up => exact ih trail.tail
    | down name =>
      rw [stepsWay, stepsWay]
      rcases hard (name :: trail) with same | ⟨m, c, file⟩
      · rw [same]
        cases t.standing (name :: trail) with
        | directory => exact List.cons_subset_cons _ (ih _)
        | file mode content => exact List.Subset.refl _
        | link target => exact List.cons_subset_cons _ (link trail target rest)
      · -- the way ends at the new file
        rw [file]
        exact List.cons_subset_cons _ (List.nil_subset _)

theorem walkWay_subset {t t' : FileTree} (hard : t.Hardens t') :
    ∀ (links : Nat) (trail : Trail) (steps : List Step),
      t'.walkWay links trail steps ⊆ t.walkWay links trail steps := by
  intro links
  induction links with
  | zero => exact fun trail steps => stepsWay_subset hard (fun _ _ _ => List.Subset.refl _) steps trail
  | succ links ih =>
    exact fun trail steps => stepsWay_subset hard (fun _ _ _ => ih _ _) steps trail

theorem stepsEnd_of_hardens {t t' : FileTree} (hard : t.Hardens t') {d : Trail}
    {onEnd onEnd' : Trail → String → List Step → Option Trail}
    (link : ∀ trail target rest, onEnd' trail target (rest ++ [.stay]) = some d →
      onEnd trail target (rest ++ [.stay]) = some d) :
    ∀ (steps : List Step) (trail : Trail),
      t'.stepsEnd onEnd' trail (steps ++ [.stay]) = some d →
      t.stepsEnd onEnd trail (steps ++ [.stay]) = some d := by
  intro steps
  induction steps with
  | nil => intro trail h; exact h
  | cons s rest ih =>
    intro trail h
    cases s with
    | stay => exact ih trail h
    | up => exact ih trail.tail h
    | down name =>
      rw [List.cons_append, stepsEnd] at h ⊢
      rcases hard (name :: trail) with same | ⟨m, c, file⟩
      · rw [same] at h
        cases hn : t.standing (name :: trail) with
        | directory => rw [hn] at h; exact ih _ h
        | file mode content => rw [hn] at h; exact h
        | link target => rw [hn] at h; exact link trail target rest h
      · -- a file blocks the way to a directory
        rw [file] at h
        dsimp only at h
        rw [if_neg (by simp)] at h
        simp at h

theorem walkEnd_of_hardens {t t' : FileTree} (hard : t.Hardens t') {d : Trail} :
    ∀ (links : Nat) (trail : Trail) (steps : List Step),
      t'.walkEnd links trail (steps ++ [.stay]) = some d →
      t.walkEnd links trail (steps ++ [.stay]) = some d := by
  intro links
  induction links with
  | zero =>
    exact fun trail steps h => stepsEnd_of_hardens hard (fun _ _ _ hl => by simp at hl) steps trail h
  | succ links ih =>
    refine fun trail steps h => stepsEnd_of_hardens hard (fun trail target rest hl => ?_) steps trail h
    rw [← List.append_assoc] at hl ⊢
    exact ih _ _ hl

/-! ## One name more -/

theorem steps_snoc {t : FileTree} {follow : Bool}
    {on on' : Trail → String → List Step → Except IoError Place}
    {d : Trail} {name : String} {m : Nat} {c : Bytes} (short : ¬255 < name.utf8ByteSize)
    (file : t.get (name :: d) = some (.file m c))
    (link : ∀ trail target rest, on trail target (rest ++ [.stay]) = .ok (.directory d) →
      on' trail target (rest ++ [.down name]) = .ok (.file (name :: d) m c)) :
    ∀ (steps : List Step) (trail : Trail),
      t.steps true on trail (steps ++ [.stay]) = .ok (.directory d) →
      t.steps follow on' trail (steps ++ [.down name]) = .ok (.file (name :: d) m c) := by
  intro steps
  induction steps with
  | nil =>
    intro trail h
    simp only [List.nil_append, FileTree.steps, Except.ok.injEq, Place.directory.injEq] at h
    subst h
    rw [List.nil_append, FileTree.steps, if_neg short, file]
    rfl
  | cons s rest ih =>
    intro trail h
    cases s with
    | stay => exact ih trail h
    | up => exact ih trail.tail h
    | down step =>
      rw [List.cons_append, FileTree.steps] at h ⊢
      split at h
      · simp at h
      · rename_i fits
        rw [if_neg fits]
        cases hget : t.get (step :: trail) with
        | none => rw [hget] at h; dsimp only at h; rw [if_neg (by simp)] at h; simp at h
        | some n =>
          rw [hget] at h
          cases n with
          | directory => exact ih _ h
          | file mode content => dsimp only at h; rw [if_neg (by simp)] at h; simp at h
          | link target =>
            dsimp only at h ⊢
            rw [if_neg (by simp)] at h ⊢
            exact link trail target rest h

/-- Behind the way to a directory one more name finds the file that stands there. -/
theorem walk_snoc {t : FileTree} {follow : Bool} {d : Trail} {name : String} {m : Nat} {c : Bytes}
    (short : ¬255 < name.utf8ByteSize) (file : t.get (name :: d) = some (.file m c)) :
    ∀ (links : Nat) (trail : Trail) (steps : List Step),
      t.walk true links trail (steps ++ [.stay]) = .ok (.directory d) →
      t.walk follow links trail (steps ++ [.down name]) = .ok (.file (name :: d) m c) := by
  intro links
  induction links with
  | zero =>
    exact fun trail steps h => steps_snoc short file (fun _ _ _ hl => by simp at hl) steps trail h
  | succ links ih =>
    refine fun trail steps h => steps_snoc short file (fun trail target rest hl => ?_) steps trail h
    rw [← List.append_assoc] at hl ⊢
    exact ih _ _ hl

theorem steps_unsnoc {t : FileTree} {follow : Bool}
    {on on' : Trail → String → List Step → Except IoError Place}
    {name : String} {l : Trail} {m : Nat} {c : Bytes}
    (link : ∀ trail target rest, on' trail target (rest ++ [.down name]) = .ok (.file l m c) →
      ¬255 < name.utf8ByteSize ∧ ∃ d, on trail target (rest ++ [.stay]) = .ok (.directory d) ∧
        ((l = name :: d ∧ t.get l = some (.file m c)) ∨
          ∃ target, t.get (name :: d) = some (.link target))) :
    ∀ (steps : List Step) (trail : Trail),
      t.steps follow on' trail (steps ++ [.down name]) = .ok (.file l m c) →
      ¬255 < name.utf8ByteSize ∧ ∃ d, t.steps true on trail (steps ++ [.stay]) = .ok (.directory d) ∧
        ((l = name :: d ∧ t.get l = some (.file m c)) ∨
          ∃ target, t.get (name :: d) = some (.link target)) := by
  intro steps
  induction steps with
  | nil =>
    intro trail h
    rw [List.nil_append, FileTree.steps] at h
    split at h
    · simp at h
    · rename_i short
      refine ⟨short, trail, rfl, ?_⟩
      cases hget : t.get (name :: trail) with
      | none => rw [hget] at h; simp at h
      | some n =>
        rw [hget] at h
        cases n with
        | directory => simp [FileTree.steps] at h
        | file mode content =>
          simp only [if_true, Except.ok.injEq, Place.file.injEq] at h
          obtain ⟨rfl, rfl, rfl⟩ := h
          exact Or.inl ⟨rfl, hget⟩
        | link target => exact Or.inr ⟨target, rfl⟩
  | cons s rest ih =>
    intro trail h
    cases s with
    | stay => exact ih trail h
    | up => exact ih trail.tail h
    | down step =>
      rw [List.cons_append, FileTree.steps] at h ⊢
      split at h
      · simp at h
      · rename_i fits
        rw [if_neg fits]
        cases hget : t.get (step :: trail) with
        | none => rw [hget] at h; dsimp only at h; rw [if_neg (by simp)] at h; simp at h
        | some n =>
          rw [hget] at h
          cases n with
          | directory => exact ih _ h
          | file mode content => dsimp only at h; rw [if_neg (by simp)] at h; simp at h
          | link target =>
            dsimp only at h ⊢
            rw [if_neg (by simp)] at h ⊢
            exact link trail target rest h

/-- A walk that finds a file by its last name has come to a directory before, and the file stands
there, or a link by that name. -/
theorem walk_unsnoc {t : FileTree} {follow : Bool} {name : String} {l : Trail} {m : Nat} {c : Bytes} :
    ∀ (links : Nat) (trail : Trail) (steps : List Step),
      t.walk follow links trail (steps ++ [.down name]) = .ok (.file l m c) →
      ¬255 < name.utf8ByteSize ∧ ∃ d, t.walk true links trail (steps ++ [.stay]) = .ok (.directory d) ∧
        ((l = name :: d ∧ t.get l = some (.file m c)) ∨
          ∃ target, t.get (name :: d) = some (.link target)) := by
  intro links
  induction links with
  | zero => exact fun trail steps h => steps_unsnoc (fun _ _ _ hl => by simp at hl) steps trail h
  | succ links ih =>
    refine fun trail steps h => steps_unsnoc (fun trail target rest hl => ?_) steps trail h
    rw [← List.append_assoc] at hl ⊢
    exact ih _ _ hl

theorem stepsEnd_snoc {t : FileTree} {onEnd : Trail → String → List Step → Option Trail} {d : Trail}
    {name : String} (free : t.standing (name :: d) = .directory)
    (link : ∀ trail target rest, onEnd trail target (rest ++ [.stay]) = some d →
      onEnd trail target (rest ++ [.down name, .stay]) = some (name :: d)) :
    ∀ (steps : List Step) (trail : Trail),
      t.stepsEnd onEnd trail (steps ++ [.stay]) = some d →
      t.stepsEnd onEnd trail (steps ++ [.down name, .stay]) = some (name :: d) := by
  intro steps
  induction steps with
  | nil =>
    intro trail h
    simp only [List.nil_append, stepsEnd, Option.some.injEq] at h
    subst h
    rw [List.nil_append, stepsEnd, free]
    rfl
  | cons s rest ih =>
    intro trail h
    cases s with
    | stay => exact ih trail h
    | up => exact ih trail.tail h
    | down step =>
      rw [List.cons_append, stepsEnd] at h ⊢
      cases hn : t.standing (step :: trail) with
      | directory => rw [hn] at h; exact ih _ h
      | file mode content => rw [hn] at h; dsimp only at h; rw [if_neg (by simp)] at h; simp at h
      | link target => rw [hn] at h; exact link trail target rest h

/-- Behind the way to a directory one more name leads to the directory that stands there, or will be
made. -/
theorem walkEnd_snoc {t : FileTree} {d : Trail} {name : String}
    (free : t.standing (name :: d) = .directory) :
    ∀ (links : Nat) (trail : Trail) (steps : List Step),
      t.walkEnd links trail (steps ++ [.stay]) = some d →
      t.walkEnd links trail (steps ++ [.down name, .stay]) = some (name :: d) := by
  intro links
  induction links with
  | zero =>
    exact fun trail steps h => stepsEnd_snoc free (fun _ _ _ hl => by simp at hl) steps trail h
  | succ links ih =>
    refine fun trail steps h => stepsEnd_snoc free (fun trail target rest hl => ?_) steps trail h
    rw [← List.append_assoc] at hl ⊢
    exact ih _ _ hl

end IngressControl.FileTree
