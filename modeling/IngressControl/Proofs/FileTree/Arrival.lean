import IngressControl.Proofs.FileTree.Way

/-!
# Where steps arrive

A walk may follow so many links and no more, so two walks through the same entry need not end alike: the
one that comes there later has fewer links left. `Arrives` leaves the number of links out. A walk that
ends well arrives where it ends (`arrives_of_walk`), and a walk along steps that arrive somewhere ends
there, or runs out of links (`Arrives.walk`).

Arrivals can be put together and taken apart. So an entry that is looked up on the way to some place leads
to that place itself, or to a directory that the way goes on from (`Arrives.entry`).
-/

namespace IngressControl.FileTree

/-- Steps from a directory arrive at a place, where something stands. -/
inductive Arrives (t : FileTree) : Trail → List Step → Place → Prop
  | here {trail : Trail} : Arrives t trail [] (.directory trail)
  | stay {trail : Trail} {rest : List Step} {p : Place} (behind : Arrives t trail rest p) :
      Arrives t trail (.stay :: rest) p
  | up {trail : Trail} {rest : List Step} {p : Place} (behind : Arrives t trail.tail rest p) :
      Arrives t trail (.up :: rest) p
  | enter {trail : Trail} {name : String} {rest : List Step} {p : Place}
      (short : ¬255 < name.utf8ByteSize) (directory : t.get (name :: trail) = some .directory)
      (behind : Arrives t (name :: trail) rest p) : Arrives t trail (.down name :: rest) p
  | file {trail : Trail} {name : String} {mode : Nat} {content : Bytes}
      (short : ¬255 < name.utf8ByteSize)
      (file : t.get (name :: trail) = some (.file mode content)) :
      Arrives t trail [.down name] (.file (name :: trail) mode content)
  | link {trail : Trail} {name target : String} {rest : List Step} {p : Place}
      (short : ¬255 < name.utf8ByteSize) (link : t.get (name :: trail) = some (.link target))
      (behind : Arrives t (if Path.isAbsolute target then [] else trail)
        (Path.allSteps target ++ rest) p) :
      Arrives t trail (.down name :: rest) p

variable {t : FileTree} {trail d : Trail} {steps front back : List Step} {p : Place} {name : String}

/-! ## Arrivals and walks -/

theorem arrives_of_steps {on : Trail → String → List Step → Except IoError Place}
    (there : ∀ l, p ≠ .vacant l)
    (link : ∀ trail target rest, on trail target rest = .ok p →
      t.Arrives (if Path.isAbsolute target then [] else trail) (Path.allSteps target ++ rest) p) :
    ∀ (steps : List Step) (trail : Trail), t.steps true on trail steps = .ok p →
      t.Arrives trail steps p := by
  intro steps
  induction steps with
  | nil =>
    intro trail h
    cases h
    exact .here
  | cons s rest ih =>
    intro trail h
    cases s with
    | stay => exact .stay (ih trail h)
    | up => exact .up (ih trail.tail h)
    | down name =>
      rw [FileTree.steps] at h
      split at h
      · simp at h
      · rename_i short
        cases hget : t.get (name :: trail) with
        | none =>
          rw [hget] at h
          dsimp only at h
          split at h
          · cases h
            exact absurd rfl (there _)
          · simp at h
        | some n =>
          rw [hget] at h
          cases n with
          | directory => exact .enter short hget (ih _ h)
          | file mode content =>
            dsimp only at h
            split at h
            · rename_i last
              cases h
              rw [last]
              exact .file short hget
            · simp at h
          | link target =>
            dsimp only at h
            rw [if_neg (by simp)] at h
            exact .link short hget (link trail target rest h)

/-- A walk that ends well arrives where it ends. -/
theorem arrives_of_walk (there : ∀ l, p ≠ .vacant l) :
    ∀ (links : Nat) (trail : Trail) (steps : List Step),
      t.walk true links trail steps = .ok p → t.Arrives trail steps p := by
  intro links
  induction links with
  | zero =>
    intro trail steps h
    exact arrives_of_steps there (fun _ _ _ hl => by simp at hl) steps trail h
  | succ links ih =>
    intro trail steps h
    exact arrives_of_steps there (fun _ _ _ hl => ih _ _ hl) steps trail h

namespace Arrives

/-- **Steps that arrive somewhere are walked to the end, as far as the links suffice.** -/
theorem walk (h : t.Arrives trail steps p) :
    ∀ links : Nat, t.walk true links trail steps = .ok p ∨
      t.walk true links trail steps = .error .tooManyLinks := by
  induction h with
  | here =>
    intro links
    cases links <;> exact Or.inl rfl
  | stay _ ih =>
    intro links
    have behind := ih links
    cases links <;> exact behind
  | up _ ih =>
    intro links
    have behind := ih links
    cases links <;> exact behind
  | enter short directory _ ih =>
    intro links
    have behind := ih links
    cases links <;> rw [FileTree.walk, FileTree.steps, if_neg short, directory] <;> exact behind
  | file short file =>
    intro links
    cases links <;> rw [FileTree.walk, FileTree.steps, if_neg short, file] <;> exact Or.inl rfl
  | link short link _ ih =>
    intro links
    cases links with
    | zero =>
      rw [FileTree.walk, FileTree.steps, if_neg short, link]
      dsimp only
      rw [if_neg (by simp)]
      exact Or.inr rfl
    | succ links =>
      rw [FileTree.walk, FileTree.steps, if_neg short, link]
      dsimp only
      rw [if_neg (by simp)]
      exact ih links

theorem stands (h : t.Arrives trail steps p) :
    (∃ d, p = .directory d) ∨ ∃ l m b, p = .file l m b := by
  induction h with
  | here => exact Or.inl ⟨_, rfl⟩
  | file => exact Or.inr ⟨_, _, _, rfl⟩
  | stay _ ih => exact ih
  | up _ ih => exact ih
  | enter _ _ _ ih => exact ih
  | link _ _ _ ih => exact ih

/-! ## Arrivals put together and taken apart -/

theorem append (h : t.Arrives trail front (.directory d)) (behind : t.Arrives d back p) :
    t.Arrives trail (front ++ back) p := by
  generalize arrived : Place.directory d = q at h
  induction h with
  | here =>
    cases arrived
    exact behind
  | stay _ ih => exact .stay (ih arrived)
  | up _ ih => exact .up (ih arrived)
  | enter short directory _ ih => exact .enter short directory (ih arrived)
  | file => cases arrived
  | link short link _ ih =>
    refine .link short link ?_
    exact List.append_assoc _ _ _ ▸ ih arrived

/-- Steps with others behind them arrive at a directory. -/
theorem split (h : t.Arrives trail (front ++ back) p) (more : back ≠ []) :
    ∃ d, t.Arrives trail front (.directory d) ∧ t.Arrives d back p := by
  generalize whole : front ++ back = steps at h
  induction h generalizing front with
  | here => exact absurd (List.append_eq_nil_iff.mp whole).2 more
  | stay behind ih =>
    rcases List.append_eq_cons_iff.mp whole with ⟨rfl, rfl⟩ | ⟨front, rfl, later⟩
    · exact ⟨_, .here, .stay behind⟩
    · obtain ⟨d, before, after⟩ := ih later.symm
      exact ⟨d, .stay before, after⟩
  | up behind ih =>
    rcases List.append_eq_cons_iff.mp whole with ⟨rfl, rfl⟩ | ⟨front, rfl, later⟩
    · exact ⟨_, .here, .up behind⟩
    · obtain ⟨d, before, after⟩ := ih later.symm
      exact ⟨d, .up before, after⟩
  | enter short directory behind ih =>
    rcases List.append_eq_cons_iff.mp whole with ⟨rfl, rfl⟩ | ⟨front, rfl, later⟩
    · exact ⟨_, .here, .enter short directory behind⟩
    · obtain ⟨d, before, after⟩ := ih later.symm
      exact ⟨d, .enter short directory before, after⟩
  | file short file =>
    rcases List.append_eq_cons_iff.mp whole with ⟨rfl, rfl⟩ | ⟨front, rfl, later⟩
    · exact ⟨_, .here, .file short file⟩
    · -- a file is the last step of all
      exact absurd (List.append_eq_nil_iff.mp later.symm).2 more
  | link short link behind ih =>
    rcases List.append_eq_cons_iff.mp whole with ⟨rfl, rfl⟩ | ⟨front, rfl, rfl⟩
    · exact ⟨_, .here, .link short link behind⟩
    · obtain ⟨d, before, after⟩ := ih (List.append_assoc _ _ _)
      exact ⟨d, .link short link before, after⟩

/-- A trail that is looked up on the way is looked up by steps that arrive at the same place. -/
theorem lookup (h : t.Arrives trail steps p) :
    ∀ {links : Nat} {l : Trail}, l ∈ t.walkWay links trail steps →
      ∃ name d rest, l = name :: d ∧ t.Arrives d (.down name :: rest) p := by
  induction h with
  | here =>
    intro links l onWay
    cases links <;> simp [walkWay, stepsWay] at onWay
  | @stay trail rest p behind ih =>
    intro links l onWay
    have later : l ∈ t.walkWay links trail rest := by cases links <;> exact onWay
    exact ih later
  | @up trail rest p behind ih =>
    intro links l onWay
    have later : l ∈ t.walkWay links trail.tail rest := by cases links <;> exact onWay
    exact ih later
  | @enter trail name rest p short directory behind ih =>
    intro links l onWay
    have way : t.walkWay links trail (.down name :: rest) =
        (name :: trail) :: t.walkWay links (name :: trail) rest := by
      cases links <;> rw [walkWay, stepsWay, standing_of_get directory]
    rw [way] at onWay
    rcases List.mem_cons.mp onWay with rfl | later
    · exact ⟨name, trail, rest, rfl, .enter short directory behind⟩
    · exact ih later
  | @file trail name mode content short file =>
    intro links l onWay
    have way : t.walkWay links trail [.down name] = [name :: trail] := by
      cases links <;> rw [walkWay, stepsWay, standing_of_get file]
    rw [way] at onWay
    obtain rfl := List.mem_singleton.mp onWay
    exact ⟨name, trail, [], rfl, .file short file⟩
  | @link trail name target rest p short link behind ih =>
    intro links l onWay
    have here := Arrives.link short link behind
    cases links with
    | zero =>
      rw [walkWay, stepsWay, standing_of_get link] at onWay
      obtain rfl := List.mem_singleton.mp onWay
      exact ⟨name, trail, rest, rfl, here⟩
    | succ links =>
      rw [walkWay, stepsWay, standing_of_get link] at onWay
      rcases List.mem_cons.mp onWay with rfl | later
      · exact ⟨name, trail, rest, rfl, here⟩
      · exact ih later

/-- A way ends at a file that is on it. -/
theorem eq_file (h : t.Arrives trail steps p) {l : Trail} {m : Nat} {c : Bytes} {links : Nat}
    (onWay : l ∈ t.walkWay links trail steps) (file : t.get l = some (.file m c)) : p = .file l m c := by
  obtain ⟨name, d, rest, rfl, lookedUp⟩ := h.lookup onWay
  cases lookedUp with
  | enter _ directory =>
    rw [file] at directory
    simp at directory
  | file _ same =>
    rw [file] at same
    cases same
    rfl
  | link _ link =>
    rw [file] at link
    simp at link

/-- **An entry that is looked up on the way leads to the same place, or to a directory.** -/
theorem entry (h : t.Arrives trail steps p) {links : Nat}
    (onWay : name :: d ∈ t.walkWay links trail steps) :
    ∃ q, t.Arrives d [.down name] q ∧ (q = p ∨ ∃ d', q = .directory d') := by
  obtain ⟨_, _, rest, same, lookedUp⟩ := h.lookup onWay
  obtain ⟨rfl, rfl⟩ := List.cons_eq_cons.mp same
  cases rest with
  | nil => exact ⟨p, lookedUp, Or.inl rfl⟩
  | cons s rest =>
    have lookedUp : t.Arrives d ([.down name] ++ s :: rest) p := lookedUp
    obtain ⟨d', arrived, _⟩ := lookedUp.split (List.cons_ne_nil s rest)
    exact ⟨.directory d', arrived, Or.inr ⟨d', rfl⟩⟩

end Arrives

end IngressControl.FileTree
