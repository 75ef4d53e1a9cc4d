import IngressControl.Proofs.Change

/-!
# What a change drops

A change drops what the old configuration has and the new one has not: backends by their names, hosts,
and certificates by what they are tracked by. Only what is dropped matters to a listing, not where it
stood or how often, and each listing is in the order of the characters' numbers.

Resources may come and go many times. Whatever a run of changes has dropped in the end, one of its steps
has dropped: the last of those behind which the resource is gone for good.
-/

namespace IngressControl

/-- The kinds of resources that are listed when they are dropped. -/
inductive ResourceKind where
  | backend
  | host
  | certificate
deriving DecidableEq

/-- What a certificate is tracked by: a serial number that is not empty, and only without one its content
identity. -/
def Certificate.TrackedBy (c : Certificate) (id : String) : Prop :=
  (c.serialNumber = some id ∧ id ≠ "") ∨
    ((c.serialNumber = none ∨ c.serialNumber = some "") ∧ c.identity = id)

theorem Certificate.trackingId_eq_iff {c : Certificate} {id : String} :
    c.trackingId = id ↔ c.TrackedBy id := by
  unfold Certificate.trackingId Certificate.TrackedBy
  cases c.serialNumber with
  | none => simp
  | some serial =>
    by_cases empty : serial = ""
    · simp [empty]
    · have kept : serial = id → id ≠ "" := fun same => same ▸ empty
      simpa [empty] using kept

namespace Configuration

/-- A configuration has a resource of a kind, by the name under which it is listed. -/
inductive Has (c : Configuration) : ResourceKind → String → Prop
  | backend {b : Backend} (there : b ∈ c.backends) : c.Has .backend b.name
  | host {s : Server} (there : s ∈ c.servers) : c.Has .host s.hostname
  | certificate {s : Server} {certificate : Certificate} {id : String} (there : s ∈ c.servers)
      (secured : s.tls = some certificate) (tracked : certificate.TrackedBy id) :
      c.Has .certificate id

/-- What a configuration has of a kind, in its own order. -/
def resources (c : Configuration) : ResourceKind → List String
  | .backend => c.backends.map (·.name)
  | .host => c.servers.map (·.hostname)
  | .certificate => c.certificates.map (·.trackingId)

variable {c : Configuration} {kind : ResourceKind} {item : String}

theorem mem_resources : item ∈ c.resources kind ↔ c.Has kind item := by
  constructor
  · intro there
    cases kind with
    | backend =>
      obtain ⟨b, hb, rfl⟩ := List.mem_map.mp there
      exact .backend hb
    | host =>
      obtain ⟨s, hs, rfl⟩ := List.mem_map.mp there
      exact .host hs
    | certificate =>
      obtain ⟨certificate, hc, tracked⟩ := List.mem_map.mp there
      obtain ⟨s, hs, secured⟩ := List.mem_filterMap.mp hc
      exact .certificate hs secured (Certificate.trackingId_eq_iff.mp tracked)
  · intro has
    cases has with
    | backend there => exact List.mem_map_of_mem there
    | host there => exact List.mem_map_of_mem there
    | certificate there secured tracked =>
      refine List.mem_map.mpr ⟨_, List.mem_filterMap.mpr ⟨_, there, secured⟩, ?_⟩
      exact Certificate.trackingId_eq_iff.mpr tracked

/-- **What is gone at the end of a chain went away in one of its steps.** -/
theorem lost_in_step (c : Nat → Configuration) :
    ∀ n : Nat, (c 0).Has kind item → ¬(c n).Has kind item →
      ∃ i, i < n ∧ (c i).Has kind item ∧ ¬(c (i + 1)).Has kind item := by
  intro n has
  induction n with
  | zero =>
    intro gone
    exact absurd has gone
  | succ n ih =>
    intro gone
    by_cases still : (c n).Has kind item
    · exact ⟨n, Nat.lt_succ_self n, still, gone⟩
    · -- it was gone before already, so it went away earlier
      obtain ⟨i, early, there, lost⟩ := ih still
      exact ⟨i, Nat.lt_succ_of_lt early, there, lost⟩

end Configuration

namespace Removed

/-- What is listed of a kind. -/
def listed (r : Removed) : ResourceKind → List String
  | .backend => r.backends
  | .host => r.hosts
  | .certificate => r.certificates

variable {old new old' new' : Configuration} {kind : ResourceKind} {item : String}

theorem listed_between :
    (between old new).listed kind = names (old.resources kind) (new.resources kind) := by
  cases kind <;> rfl

theorem mem_between :
    item ∈ (between old new).listed kind ↔ old.Has kind item ∧ ¬new.Has kind item := by
  rw [listed_between, mem_names, Configuration.mem_resources, Configuration.mem_resources]

theorem ascending_between : Ascending ((between old new).listed kind) := by
  rw [listed_between]
  exact ascending_sortedSet _

theorem eq_of_listed {r r' : Removed} (same : ∀ kind, r.listed kind = r'.listed kind) : r = r' := by
  cases r
  cases r'
  simp only [Removed.mk.injEq]
  exact ⟨same .backend, same .host, same .certificate⟩

theorem isEmpty_iff {r : Removed} : r.isEmpty = true ↔ ∀ kind, r.listed kind = [] := by
  rw [isEmpty, Bool.and_eq_true, Bool.and_eq_true, List.isEmpty_iff, List.isEmpty_iff, List.isEmpty_iff]
  constructor
  · rintro ⟨⟨backends, hosts⟩, certificates⟩ kind
    cases kind with
    | backend => exact backends
    | host => exact hosts
    | certificate => exact certificates
  · intro none
    exact ⟨⟨none .backend, none .host⟩, none .certificate⟩

/-- Nothing is dropped just when all is kept. -/
theorem isEmpty_between_iff : (between old new).isEmpty = true ↔
    ∀ kind item, old.Has kind item → new.Has kind item := by
  rw [isEmpty_iff]
  constructor
  · intro none kind item has
    by_cases kept : new.Has kind item
    · exact kept
    · have listed := mem_between.mpr ⟨has, kept⟩
      rw [none kind] at listed
      exact absurd listed List.not_mem_nil
  · intro kept kind
    rw [List.eq_nil_iff_forall_not_mem]
    intro item listed
    obtain ⟨has, lost⟩ := mem_between.mp listed
    exact lost (kept kind item has)

theorem between_congr (sameOld : ∀ kind item, old'.Has kind item ↔ old.Has kind item)
    (sameNew : ∀ kind item, new'.Has kind item ↔ new.Has kind item) :
    between old' new' = between old new := by
  refine eq_of_listed fun kind => ?_
  refine ascending_between.eq_of_mem_iff ascending_between fun item => ?_
  rw [mem_between, mem_between, sameOld, sameNew]

/-- **What is dropped, exactly.** Each listing ascends, and it names what the old configuration has of its
kind and the new one has not; so it does not matter in which order and how often either has it. Nothing is
listed just when all is kept. And what is dropped over a chain of changes is dropped by one of them. -/
theorem dropped_exactly (old new : Configuration) :
    (∀ kind, ((between old new).listed kind).Pairwise (· < ·) ∧
        ∀ item, item ∈ (between old new).listed kind ↔ old.Has kind item ∧ ¬new.Has kind item) ∧
      (∀ old' new' : Configuration, (∀ kind item, old'.Has kind item ↔ old.Has kind item) →
        (∀ kind item, new'.Has kind item ↔ new.Has kind item) →
          between old' new' = between old new) ∧
      ((between old new).isEmpty = true ↔ ∀ kind item, old.Has kind item → new.Has kind item) ∧
      (between old old).isEmpty = true ∧
      ∀ (c : Nat → Configuration) (n : Nat) (kind : ResourceKind) (item : String),
        item ∈ (between (c 0) (c n)).listed kind →
          ∃ i, i < n ∧ item ∈ (between (c i) (c (i + 1))).listed kind := by
  refine ⟨fun kind => ⟨?_, fun item => mem_between⟩, ?_, isEmpty_between_iff, ?_, ?_⟩
  · exact ascending_between.imp fun {a b} less => compareOfLessAndEq_eq_lt.mp less
  · intro old' new' sameOld sameNew
    exact between_congr sameOld sameNew
  · exact isEmpty_between_iff.mpr fun kind item has => has
  · intro c n kind item listed
    obtain ⟨has, lost⟩ := mem_between.mp listed
    obtain ⟨i, early, there, gone⟩ := Configuration.lost_in_step c n has lost
    exact ⟨i, early, mem_between.mpr ⟨there, gone⟩⟩

/-- A backend and a host that go, come back together with another backend, and go again. -/
def comingAndGoing : Nat → Configuration
  | 0 => { backends := [{ name := "web" }], servers := [{ hostname := "a.example", port := 80 }] }
  | 1 => {}
  | 2 => {
      backends := [{ name := "web" }, { name := "api" }, { name := "web" }]
      servers := [{ hostname := "a.example", port := 80 }] }
  | _ => { backends := [{ name := "api" }] }

/-- Whatever of it is dropped in the end is dropped on the way. -/
theorem comingAndGoing_dropped :
    "web" ∈ (between (comingAndGoing 0) (comingAndGoing 3)).listed .backend ∧
      "a.example" ∈ (between (comingAndGoing 0) (comingAndGoing 3)).listed .host ∧
      (∃ i, i < 3 ∧
        "web" ∈ (between (comingAndGoing i) (comingAndGoing (i + 1))).listed .backend) ∧
      ∃ i, i < 3 ∧
        "a.example" ∈ (between (comingAndGoing i) (comingAndGoing (i + 1))).listed .host := by
  have web : "web" ∈ (between (comingAndGoing 0) (comingAndGoing 3)).listed .backend := by
    decide +kernel
  have host : "a.example" ∈ (between (comingAndGoing 0) (comingAndGoing 3)).listed .host := by
    decide +kernel
  obtain ⟨_, _, _, _, chain⟩ := dropped_exactly (comingAndGoing 0) (comingAndGoing 3)
  exact ⟨web, host, chain comingAndGoing 3 .backend "web" web,
    chain comingAndGoing 3 .host "a.example" host⟩

end Removed

end IngressControl
