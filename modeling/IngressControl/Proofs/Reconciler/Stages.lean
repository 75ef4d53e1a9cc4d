import IngressControl.Proofs.StoredMaterial
import IngressControl.Reconciler.Run

/-!
# What the stages of a reconciliation do

Each stage is described once, by three things: what becomes of the file tree, which actions it adds
to the record, and that it keeps what the control surface holds. All later proofs use these
descriptions and open no stage again.

The actions are told through `Sees`: a reader who only cares for some of them, say for the material
stored, takes a function that picks those out.
-/

namespace IngressControl

namespace Session

variable {σ β : Type} {f : Action → Option β} {s s₁ s₂ s₃ s' : Session σ}

/-- What `f` picks out of the actions between two sessions. -/
def Sees (f : Action → Option β) (s s' : Session σ) (found : List β) : Prop :=
  ∃ as, s'.actions = s.actions ++ as ∧ as.filterMap f = found

namespace Sees

variable {found found' : List β}

theorem of_actions (as : List Action) (h : s'.actions = s.actions ++ as) :
    Sees f s s' (as.filterMap f) := ⟨as, h, rfl⟩

theorem of_same (h : s'.actions = s.actions) : Sees f s s' [] := ⟨[], by rw [h]; simp, rfl⟩

theorem trans (h : Sees f s s₁ found) (h' : Sees f s₁ s' found') : Sees f s s' (found ++ found') := by
  obtain ⟨as, hs, rfl⟩ := h
  obtain ⟨bs, hs', rfl⟩ := h'
  exact ⟨as ++ bs, by rw [hs', hs, List.append_assoc], List.filterMap_append⟩

/-- An action that is not looked for adds nothing. -/
theorem record (h : Sees f s s' found) {a : Action} (silent : f a = none) :
    Sees f s (s'.record a) found := by
  obtain ⟨as, hs, rfl⟩ := h
  refine ⟨as ++ [a], by rw [Session.record, hs, List.append_assoc], ?_⟩
  rw [List.filterMap_append]
  simp [silent]

end Sees

/-! ## Material -/

variable {c : Collaborators σ} {store : MaterialStore}

theorem syncCertificate_ok {certificate : Certificate}
    (h : s.syncCertificate c store certificate = (s', .ok ())) :
    MaterialStore.takesCertificate certificate.name = true ∧
      MaterialStore.Stores s.tree (store.certificatePiece certificate) s'.tree ∧
      s'.actions = s.actions ++ [.storeCertificate certificate] := by
  unfold syncCertificate at h
  dsimp only at h
  split at h
  · rename_i stored
    cases h
    obtain ⟨takes, stores⟩ := MaterialStore.storeAs_ok .certificate (Prod.ext rfl stored)
    exact ⟨(MaterialStore.takesCertificate_eq _).trans takes, stores, rfl⟩
  · simp at h

theorem syncCertificate_error {certificate : Certificate} {e : Failure}
    (h : s.syncCertificate c store certificate = (s', .error e)) :
    e.kind = .certificateWriteFailed ∧ s.tree.Rewrites [] s'.tree ∧
      s'.actions = s.actions ++ [.storeCertificate certificate] := by
  unfold syncCertificate at h
  dsimp only at h
  split at h
  · simp at h
  · rename_i failed
    cases h
    exact ⟨rfl, MaterialStore.storeAs_error .certificate (Prod.ext rfl failed), rfl⟩

theorem syncDhParam_ok {parameters : DhParam}
    (h : s.syncDhParam c store parameters = (s', .ok ())) :
    MaterialStore.isValidName parameters.name = true ∧
      MaterialStore.Stores s.tree (store.dhParamPiece parameters) s'.tree ∧
      s'.actions = s.actions ++ [.storeDhParam parameters] := by
  unfold syncDhParam at h
  dsimp only at h
  split at h
  · rename_i stored
    cases h
    obtain ⟨valid, stores⟩ := MaterialStore.storeAs_ok .dhParam (Prod.ext rfl stored)
    exact ⟨valid, stores, rfl⟩
  · simp at h

theorem syncDhParam_error {parameters : DhParam} {e : Failure}
    (h : s.syncDhParam c store parameters = (s', .error e)) :
    e.kind = .dhParamWriteFailed ∧ s.tree.Rewrites [] s'.tree ∧
      s'.actions = s.actions ++ [.storeDhParam parameters] := by
  unfold syncDhParam at h
  dsimp only at h
  split at h
  · simp at h
  · rename_i failed
    cases h
    exact ⟨rfl, MaterialStore.storeAs_error .dhParam (Prod.ext rfl failed), rfl⟩

/-- The piece that an action stores. -/
def piece? (store : MaterialStore) : Action → Option Piece
  | .storeCertificate certificate => some (store.certificatePiece certificate)
  | .storeDhParam parameters => some (store.dhParamPiece parameters)
  | _ => none

variable {last : Option Snapshot} {snapshot : Snapshot}

/-- The action that stores the default certificate, unless it is that of the last applied
snapshot. -/
def outdatedCertificate (last : Option Snapshot) (snapshot : Snapshot) : Option Action :=
  if (MaterialKey.of last).certificate = (MaterialKey.of (some snapshot)).certificate then none
  else snapshot.defaultCertificate.map .storeCertificate

/-- The action that stores the Diffie-Hellman parameters, unless they are those of the last applied
snapshot. -/
def outdatedDhParam (last : Option Snapshot) (snapshot : Snapshot) : Option Action :=
  if (MaterialKey.of last).dhParam = (MaterialKey.of (some snapshot)).dhParam then none
  else snapshot.dhParam.map .storeDhParam

/-- The actions that bring a snapshot's default material in step, in their order. -/
def outdated (last : Option Snapshot) (snapshot : Snapshot) : List Action :=
  (outdatedCertificate last snapshot).toList ++ (outdatedDhParam last snapshot).toList

/-- An action stores default material of a snapshot, under a name that the store takes. -/
def Takes (snapshot : Snapshot) : Action → Prop
  | .storeCertificate x => snapshot.defaultCertificate = some x ∧
      MaterialStore.takesCertificate x.name = true
  | .storeDhParam x => snapshot.dhParam = some x ∧ MaterialStore.isValidName x.name = true
  | _ => False

/-- The session after some pieces of a snapshot were stored, by these actions. -/
structure Stocked (store : MaterialStore) (snapshot : Snapshot) (s : Session σ) (as : List Action)
    (s' : Session σ) : Prop where
  deposits : MaterialStore.Deposits s.tree (as.filterMap (piece? store)) s'.tree
  takes : ∀ a ∈ as, Takes snapshot a
  actions : s'.actions = s.actions ++ as

theorem Stocked.none : Stocked store snapshot s [] s := ⟨.nil, by simp, by simp⟩

theorem Stocked.trans {as bs : List Action} (h : Stocked store snapshot s as s₁)
    (h' : Stocked store snapshot s₁ bs s') : Stocked store snapshot s (as ++ bs) s' := by
  refine ⟨?_, fun a ha => ?_, by rw [h'.actions, h.actions, List.append_assoc]⟩
  · rw [List.filterMap_append]
    exact h.deposits.trans h'.deposits
  · rcases List.mem_append.mp ha with ha | ha
    · exact h.takes a ha
    · exact h'.takes a ha

theorem Stocked.one {a : Action} {p : Piece} (ha : piece? store a = some p)
    (takes : Takes snapshot a) (stores : MaterialStore.Stores s.tree p s'.tree)
    (acts : s'.actions = s.actions ++ [a]) : Stocked store snapshot s [a] s' := by
  refine ⟨?_, by simpa using takes, acts⟩
  have stored := MaterialStore.Deposits.nil.stored stores
  simpa [ha] using stored

/-- The pieces are ones that can be stored. -/
theorem Stocked.storable {as : List Action} (h : Stocked store snapshot s as s') :
    ∀ p ∈ as.filterMap (piece? store), p ∈ store.storable snapshot := by
  intro p hp
  obtain ⟨a, ha, hap⟩ := List.mem_filterMap.mp hp
  have takes := h.takes a ha
  cases a with
  | storeCertificate x =>
    cases hap
    exact store.certificatePiece_storable takes.1 takes.2
  | storeDhParam x =>
    cases hap
    exact store.dhParamPiece_storable takes.1 takes.2
  | _ => exact takes.elim

/-- Where nothing had to be stored or it was stored, the certificate is in step. -/
theorem certificate_stocked
    (h : (match snapshot.defaultCertificate with
      | some certificate =>
        if (MaterialKey.of last).certificate = (MaterialKey.of (some snapshot)).certificate then
          (s, .ok ())
        else s.syncCertificate c store certificate
      | .none => (s, .ok ())) = (s', .ok ())) :
    Stocked store snapshot s (outdatedCertificate last snapshot).toList s' := by
  unfold outdatedCertificate
  split at h
  · rename_i certificate hcert
    split at h
    · rename_i same
      cases h
      rw [if_pos same]
      exact .none
    · rename_i differs
      obtain ⟨takes, stores, acts⟩ := syncCertificate_ok h
      rw [if_neg differs, hcert]
      exact .one rfl ⟨hcert, takes⟩ stores acts
  · rename_i hcert
    cases h
    rw [hcert]
    simpa using Stocked.none

theorem dhParam_stocked
    (h : (match snapshot.dhParam with
      | some parameters =>
        if (MaterialKey.of last).dhParam = (MaterialKey.of (some snapshot)).dhParam then (s, .ok ())
        else s.syncDhParam c store parameters
      | .none => (s, .ok ())) = (s', .ok ())) :
    Stocked store snapshot s (outdatedDhParam last snapshot).toList s' := by
  unfold outdatedDhParam
  split at h
  · rename_i parameters hparam
    split at h
    · rename_i same
      cases h
      rw [if_pos same]
      exact .none
    · rename_i differs
      obtain ⟨valid, stores, acts⟩ := syncDhParam_ok h
      rw [if_neg differs, hparam]
      exact .one rfl ⟨hparam, valid⟩ stores acts
  · rename_i hparam
    cases h
    rw [hparam]
    simpa using Stocked.none

/-- When the material is in step, all that was outdated has been stored. -/
theorem syncMaterial_ok (h : s.syncMaterial c store last snapshot = (s', .ok ())) :
    Stocked store snapshot s (outdated last snapshot) s' := by
  unfold syncMaterial at h
  dsimp only at h
  split at h
  · simp at h
  · rename_i s₁ hcert
    exact (certificate_stocked hcert).trans (dhParam_stocked h)

/-- When it is not, all is stored but the last piece that was to be stored. -/
theorem syncMaterial_error {e : Failure}
    (h : s.syncMaterial c store last snapshot = (s', .error e)) :
    (e.kind = .certificateWriteFailed ∨ e.kind = .dhParamWriteFailed) ∧
      ∃ stored a s₁, stored ++ [a] <+: outdated last snapshot ∧ Stocked store snapshot s stored s₁ ∧
        s₁.tree.Rewrites [] s'.tree ∧ s'.actions = s₁.actions ++ [a] := by
  unfold syncMaterial at h
  dsimp only at h
  split at h
  · rename_i s₁ e' hcert
    cases h
    split at hcert
    · rename_i certificate hc
      split at hcert
      · simp at hcert
      · rename_i differs
        -- the certificate comes first, so nothing was stored before it
        obtain ⟨kind, made, acts⟩ := syncCertificate_error hcert
        refine ⟨Or.inl kind, [], .storeCertificate certificate, s, ?_, .none, made, acts⟩
        rw [outdated, outdatedCertificate, if_neg differs, hc]
        exact List.prefix_append _ _
    · simp at hcert
  · rename_i s₁ hcert
    have stocked := certificate_stocked hcert
    split at h
    · rename_i parameters hd
      split at h
      · simp at h
      · rename_i differs
        -- the certificate is in step already
        obtain ⟨kind, made, acts⟩ := syncDhParam_error h
        refine ⟨Or.inr kind, _, .storeDhParam parameters, s₁, ?_, stocked, made, acts⟩
        rw [outdated, outdatedDhParam, if_neg differs, hd]
        exact List.prefix_refl _
    · simp at h

/-- Bringing the material in step takes at most two steps, whether or not they succeed: one for the
certificate, then one for the parameters. -/
theorem syncMaterial_steps {r : Except Failure Unit}
    (h : s.syncMaterial c store last snapshot = (s', r)) :
    ∃ s₁, (s₁ = s ∨ ∃ x e, snapshot.defaultCertificate = some x ∧
        s.syncCertificate c store x = (s₁, e)) ∧
      (s' = s₁ ∨ ∃ x e, snapshot.dhParam = some x ∧ s₁.syncDhParam c store x = (s', e)) := by
  have certificate : ∀ {s₁ : Session σ} {e}, (match snapshot.defaultCertificate with
      | some x =>
        if (MaterialKey.of last).certificate = (MaterialKey.of (some snapshot)).certificate then
          (s, .ok ())
        else s.syncCertificate c store x
      | none => (s, .ok ())) = (s₁, e) →
      s₁ = s ∨ ∃ x e, snapshot.defaultCertificate = some x ∧
        s.syncCertificate c store x = (s₁, e) := by
    intro s₁ e h
    split at h
    · rename_i x hx
      split at h
      · cases h; exact Or.inl rfl
      · exact Or.inr ⟨x, e, hx, h⟩
    · cases h; exact Or.inl rfl
  unfold syncMaterial at h
  dsimp only at h
  split at h
  · rename_i hcert
    cases h
    exact ⟨_, certificate hcert, Or.inl rfl⟩
  · rename_i s₁ hcert
    refine ⟨s₁, certificate hcert, ?_⟩
    split at h
    · rename_i x hx
      split at h
      · cases h; exact Or.inl rfl
      · exact Or.inr ⟨x, r, hx, h⟩
    · cases h; exact Or.inl rfl

theorem syncCertificate_touches {x : Certificate} {r : Except Failure Unit}
    (hx : snapshot.defaultCertificate = some x) (h : s.syncCertificate c store x = (s', r)) :
    s.tree.Touches (store.ways snapshot) s'.tree := by
  unfold syncCertificate at h
  cases h
  rcases MaterialStore.storeAs_touches .certificate rfl with same | ⟨valid, touches⟩
  · dsimp only [record]
    rw [same]
    exact .refl _ _
  · refine touches.mono fun path hpath => ?_
    rw [List.mem_singleton.mp hpath]
    have takes := (MaterialStore.takesCertificate_eq _).trans valid
    exact List.mem_map_of_mem (store.certificatePiece_storable hx takes)

theorem syncDhParam_touches {x : DhParam} {r : Except Failure Unit}
    (hx : snapshot.dhParam = some x) (h : s.syncDhParam c store x = (s', r)) :
    s.tree.Touches (store.ways snapshot) s'.tree := by
  unfold syncDhParam at h
  cases h
  rcases MaterialStore.storeAs_touches .dhParam rfl with same | ⟨valid, touches⟩
  · dsimp only [record]
    rw [same]
    exact .refl _ _
  · refine touches.mono fun path hpath => ?_
    rw [List.mem_singleton.mp hpath]
    exact List.mem_map_of_mem (store.dhParamPiece_storable hx valid)

/-- All that an attempt to bring the material in step can touch are files that the store takes. -/
theorem syncMaterial_touches {r : Except Failure Unit}
    (h : s.syncMaterial c store last snapshot = (s', r)) :
    s.tree.Touches (store.ways snapshot) s'.tree := by
  obtain ⟨s₁, first, second⟩ := syncMaterial_steps h
  have certified : s.tree.Touches (store.ways snapshot) s₁.tree := by
    rcases first with rfl | ⟨_, _, hx, stored⟩
    · exact .refl _ _
    · exact syncCertificate_touches hx stored
  rcases second with rfl | ⟨_, _, hx, stored⟩
  · exact certified
  · exact certified.trans (syncDhParam_touches hx stored)

/-- Each of these actions stores a piece of the material. -/
theorem piece?_outdated (store : MaterialStore) {a : Action} (ha : a ∈ outdated last snapshot) :
    ∃ p ∈ store.material snapshot, piece? store a = some p := by
  rw [outdated, List.mem_append, outdatedCertificate, outdatedDhParam] at ha
  rcases ha with ha | ha
  · split at ha
    · simp at ha
    · obtain ⟨x, hx, rfl⟩ : ∃ x, snapshot.defaultCertificate = some x ∧
          Action.storeCertificate x = a := by simpa using ha
      exact ⟨_, by simp [MaterialStore.material, hx], rfl⟩
  · split at ha
    · simp at ha
    · obtain ⟨x, hx, rfl⟩ : ∃ x, snapshot.dhParam = some x ∧ Action.storeDhParam x = a := by
        simpa using ha
      exact ⟨_, by simp [MaterialStore.material, hx], rfl⟩

/-- With equal keys the last applied snapshot has a certificate of the same name and identity. -/
theorem certificate_of_key {x : Certificate} (hx : snapshot.defaultCertificate = some x)
    (same : (MaterialKey.of last).certificate = (MaterialKey.of (some snapshot)).certificate) :
    ∃ a, last = some a ∧ ∃ y, a.defaultCertificate = some y ∧ y.name = x.name ∧
      y.identity = x.identity := by
  cases last with
  | none => simp [MaterialKey.of, hx] at same
  | some a => exact ⟨a, rfl, by simpa [MaterialKey.of, hx] using same⟩

/-- And likewise parameters. -/
theorem dhParam_of_key {x : DhParam} (hx : snapshot.dhParam = some x)
    (same : (MaterialKey.of last).dhParam = (MaterialKey.of (some snapshot)).dhParam) :
    ∃ a, last = some a ∧ ∃ y, a.dhParam = some y ∧ y.name = x.name ∧ y.identity = x.identity := by
  cases last with
  | none => simp [MaterialKey.of, hx] at same
  | some a => exact ⟨a, rfl, by simpa [MaterialKey.of, hx] using same⟩

/-- A piece of the material is outdated, or the last applied snapshot has it, by its path and
content identity. -/
theorem material_outdated {f : Piece} (hf : f ∈ store.material snapshot) :
    f ∈ (outdated last snapshot).filterMap (piece? store) ∨
      ∃ a, last = some a ∧ ∃ g ∈ store.material a, g.path = f.path ∧
        contentIdentity g.content = contentIdentity f.content := by
  rw [MaterialStore.material, List.mem_append] at hf
  rcases hf with hf | hf
  · obtain ⟨x, hx, rfl⟩ : ∃ x, snapshot.defaultCertificate = some x ∧
        store.certificatePiece x = f := by simpa using hf
    by_cases same : (MaterialKey.of last).certificate = (MaterialKey.of (some snapshot)).certificate
    · obtain ⟨a, ha, y, hy, name, identity⟩ := certificate_of_key hx same
      refine Or.inr ⟨a, ha, store.certificatePiece y, by simp [MaterialStore.material, hy], ?_,
        identity⟩
      rw [MaterialStore.certificatePiece, MaterialStore.certificatePiece, name]
    · refine Or.inl ?_
      rw [outdated, outdatedCertificate, if_neg same, hx]
      simp [piece?]
  · obtain ⟨x, hx, rfl⟩ : ∃ x, snapshot.dhParam = some x ∧ store.dhParamPiece x = f := by
      simpa using hf
    by_cases same : (MaterialKey.of last).dhParam = (MaterialKey.of (some snapshot)).dhParam
    · obtain ⟨a, ha, y, hy, name, identity⟩ := dhParam_of_key hx same
      refine Or.inr ⟨a, ha, store.dhParamPiece y, by simp [MaterialStore.material, hy], ?_,
        identity⟩
      rw [MaterialStore.dhParamPiece, MaterialStore.dhParamPiece, name]
    · refine Or.inl ?_
      rw [outdated, outdatedDhParam, if_neg same, hx]
      simp [piece?]

/-- A reader that cares neither for figures nor for material sees nothing of all this. -/
theorem syncMaterial_sees {r : Except Failure Unit} (figures : ∀ servers,
      f (.setCertificateExpiry servers) = none ∧ f (.setCertificateInfo servers) = none)
    (files : ∀ a p, piece? store a = some p → f a = none)
    (h : (s.observeCertificates snapshot).syncMaterial c store last snapshot = (s', r)) :
    Sees f s s' [] := by
  have observed : Sees f s (s.observeCertificates snapshot) [] := by
    refine ⟨[.setCertificateExpiry snapshot.servers, .setCertificateInfo snapshot.servers], ?_, ?_⟩
    · simp [observeCertificates, record]
    · simp [figures]
  have silent : ∀ a ∈ outdated last snapshot, f a = none := by
    intro a ha
    obtain ⟨p, _, hp⟩ := piece?_outdated store ha
    exact files a p hp
  have quiet : ∀ as, as ⊆ outdated last snapshot → as.filterMap f = [] := by
    intro as sub
    rw [List.filterMap_eq_nil_iff]
    exact fun a ha => silent a (sub ha)
  have synced : Sees f (s.observeCertificates snapshot) s' [] := by
    cases r with
    | ok u => exact ⟨_, (syncMaterial_ok h).actions, quiet _ (fun a ha => ha)⟩
    | error e =>
      obtain ⟨_, stored, a, s₁, first, stocked, _, acts⟩ := syncMaterial_error h
      exact ⟨stored ++ [a], by rw [acts, stocked.actions, List.append_assoc], quiet _ first.subset⟩
  exact observed.trans synced

/-! ## Reloads -/

variable {settings : ReconcilerSettings} {artifact : String}

theorem renderArtifact_effect {r : Except RenderError String}
    (h : s.renderArtifact c settings snapshot = (s', r)) :
    s'.tree = s.tree ∧ s'.actions = s.actions ++ [.render (settings.context snapshot)] := by
  unfold renderArtifact at h
  cases h
  exact ⟨rfl, rfl⟩

theorem dryRun_effect {r : Except CommandError Unit} (h : s.dryRun c artifact = (s', r)) :
    s'.tree = s.tree ∧ s'.actions = s.actions ++ [.beginDryRun artifact, .endDryRun] := by
  unfold dryRun at h
  cases h
  exact ⟨rfl, by simp [record]⟩

/-- The actions of the stage that replaces the live artifact. -/
def replacing (s : Session σ) (path artifact : String) : List Action :=
  [.compareArtifact (.between (s.tree.readText path) artifact), .writeArtifact artifact]

theorem replaceArtifact_effect {path : String} {r : Except IoError Unit}
    (h : s.replaceArtifact c path artifact = (s', r)) :
    (∃ faults, s.tree.writeAtomic faults path (Utf8.encode artifact) = (s'.tree, r)) ∧
      s'.actions = s.actions ++ s.replacing path artifact := by
  cases hwrite : s.tree.writeAtomic (c.disk s.world).1 path (Utf8.encode artifact) with
  | mk t result =>
    unfold replaceArtifact at h
    dsimp only [record] at h
    rw [hwrite] at h
    cases h
    exact ⟨⟨_, hwrite⟩, by simp [replacing]⟩

theorem replaceArtifact_error {path : String} {e : IoError}
    (h : s.replaceArtifact c path artifact = (s', .error e)) :
    s.tree.Rewrites [] s'.tree ∧ s'.actions = s.actions ++ s.replacing path artifact := by
  obtain ⟨⟨_, write⟩, acts⟩ := replaceArtifact_effect h
  exact ⟨FileTree.writeAtomic_error write, acts⟩

theorem replaceArtifact_ok {path : String} (h : s.replaceArtifact c path artifact = (s', .ok ())) :
    s.tree.Rewrites [path] s'.tree ∧
      (s.tree.Straight path → s'.tree.read path = .ok (Utf8.encode artifact)) ∧
      s'.actions = s.actions ++ s.replacing path artifact := by
  obtain ⟨⟨_, write⟩, acts⟩ := replaceArtifact_effect h
  obtain ⟨rewrites, read⟩ := FileTree.writeAtomic_ok write
  exact ⟨rewrites, read, acts⟩

theorem signalReload_effect {r : Except CommandError Unit} (h : s.signalReload c = (s', r)) :
    s'.tree = s.tree ∧ s'.actions = s.actions ++ [.reload] := by
  unfold signalReload at h
  cases h
  exact ⟨rfl, rfl⟩

/-- The course of a reload, up to the stage that it stopped at. -/
inductive Loading (c : Collaborators σ) (settings : ReconcilerSettings) (snapshot : Snapshot)
    (s : Session σ) : Session σ → Except Failure Unit → Prop
  | unrendered {s₁ : Session σ} {e : RenderError}
      (render : s.renderArtifact c settings snapshot = (s₁, .error e)) :
      Loading c settings snapshot s s₁ (.error (.render e))
  | refused {s₁ s₂ : Session σ} {artifact : String} {e : CommandError}
      (render : s.renderArtifact c settings snapshot = (s₁, .ok artifact))
      (dryRun : s₁.dryRun c artifact = (s₂, .error e)) :
      Loading c settings snapshot s s₂ (.error (.validation e))
  | unwritten {s₁ s₂ s₃ : Session σ} {artifact : String} {e : IoError}
      (render : s.renderArtifact c settings snapshot = (s₁, .ok artifact))
      (dryRun : s₁.dryRun c artifact = (s₂, .ok ()))
      (replace : s₂.replaceArtifact c settings.configFile artifact = (s₃, .error e)) :
      Loading c settings snapshot s s₃ (.error (.artifactWrite settings.configFile e))
  | unsignalled {s₁ s₂ s₃ s₄ : Session σ} {artifact : String} {e : CommandError}
      (render : s.renderArtifact c settings snapshot = (s₁, .ok artifact))
      (dryRun : s₁.dryRun c artifact = (s₂, .ok ()))
      (replace : s₂.replaceArtifact c settings.configFile artifact = (s₃, .ok ()))
      (signal : s₃.signalReload c = (s₄, .error e)) :
      Loading c settings snapshot s s₄ (.error (.reloadSignal e))
  | loaded {s₁ s₂ s₃ s₄ : Session σ} {artifact : String}
      (render : s.renderArtifact c settings snapshot = (s₁, .ok artifact))
      (dryRun : s₁.dryRun c artifact = (s₂, .ok ()))
      (replace : s₂.replaceArtifact c settings.configFile artifact = (s₃, .ok ()))
      (signal : s₃.signalReload c = (s₄, .ok ())) :
      Loading c settings snapshot s s₄ (.ok ())

theorem reload_course (c : Collaborators σ) (settings : ReconcilerSettings) (s : Session σ)
    (snapshot : Snapshot) :
    Loading c settings snapshot s (s.reload c settings snapshot).1
      (s.reload c settings snapshot).2 := by
  unfold reload
  split
  · rename_i render
    exact .unrendered render
  · rename_i render
    split
    · rename_i dryRun
      exact .refused render dryRun
    · rename_i dryRun
      split
      · rename_i replace
        exact .unwritten render dryRun replace
      · rename_i replace
        split
        · rename_i signal
          exact .unsignalled render dryRun replace signal
        · rename_i signal
          exact .loaded render dryRun replace signal

/-- All that a reload can write is the live artifact. -/
theorem Loading.rewrites {r : Except Failure Unit} (h : Loading c settings snapshot s s' r) :
    s.tree.Rewrites [settings.configFile] s'.tree := by
  have rendered : ∀ {s₁ s₂ : Session σ} {artifact : String} {e : Except CommandError Unit},
      s.renderArtifact c settings snapshot = (s₁, .ok artifact) →
      s₁.dryRun c artifact = (s₂, e) → s₂.tree = s.tree := by
    intro s₁ s₂ artifact e render dryRun
    exact (dryRun_effect dryRun).1.trans (renderArtifact_effect render).1
  cases h with
  | unrendered render =>
    rw [(renderArtifact_effect render).1]
    exact FileTree.Rewrites.refl _ _
  | refused render dryRun =>
    rw [rendered render dryRun]
    exact FileTree.Rewrites.refl _ _
  | unwritten render dryRun replace =>
    rw [← rendered render dryRun]
    exact (replaceArtifact_error replace).1.mono (by simp)
  | unsignalled render dryRun replace signal =>
    rw [← rendered render dryRun, (signalReload_effect signal).1]
    exact (replaceArtifact_ok replace).1
  | loaded render dryRun replace signal =>
    rw [← rendered render dryRun, (signalReload_effect signal).1]
    exact (replaceArtifact_ok replace).1

/-- The failures of a reload are its own. -/
theorem Loading.failure {e : Failure} (h : Loading c settings snapshot s s' (.error e)) :
    e.kind = .renderFailed ∨ e.kind = .validationFailed ∨ e.kind = .artifactWriteFailed ∨
      e.kind = .reloadSignalFailed := by
  cases h <;> simp [Failure.kind]

/-- Whether an action is one of those that a reload consists of. -/
def ofReload : Action → Bool
  | .render _ => true
  | .beginDryRun _ => true
  | .endDryRun => true
  | .compareArtifact _ => true
  | .writeArtifact _ => true
  | .reload => true
  | _ => false

/-- Of a reload a reader that looks for nothing else of it sees that the artifact is rendered. -/
theorem Loading.sees {r : Except Failure Unit}
    (silent : ∀ a, ofReload a = true → (∀ context, a ≠ .render context) → f a = none)
    (h : Loading c settings snapshot s s' r) :
    Sees f s s' ([Action.render (settings.context snapshot)].filterMap f) := by
  have unseen : ∀ {s s' : Session σ} {as : List Action}, s'.actions = s.actions ++ as →
      (∀ a ∈ as, ofReload a = true ∧ ∀ context, a ≠ .render context) → Sees f s s' [] :=
    fun acts reload => ⟨_, acts, List.filterMap_eq_nil_iff.mpr fun a ha =>
      silent a (reload a ha).1 (reload a ha).2⟩
  have render : ∀ {s₁ : Session σ} {e}, s.renderArtifact c settings snapshot = (s₁, e) →
      Sees f s s₁ ([Action.render (settings.context snapshot)].filterMap f) :=
    fun h => .of_actions _ (renderArtifact_effect h).2
  have dryRun : ∀ {s₁ s₂ : Session σ} {artifact e}, s₁.dryRun c artifact = (s₂, e) →
      Sees f s₁ s₂ [] :=
    fun h => unseen (dryRun_effect h).2 (by simp [ofReload])
  have replaces : ∀ (s₁ : Session σ) (path artifact : String), ∀ a ∈ s₁.replacing path artifact,
      ofReload a = true ∧ ∀ context, a ≠ .render context := by
    intro s₁ path artifact
    simp [replacing, ofReload]
  have replace : ∀ {s₁ s₂ : Session σ} {path artifact e},
      s₁.replaceArtifact c path artifact = (s₂, e) → Sees f s₁ s₂ [] :=
    fun h => unseen (replaceArtifact_effect h).2 (replaces _ _ _)
  have signal : ∀ {s₁ s₂ : Session σ} {e}, s₁.signalReload c = (s₂, e) → Sees f s₁ s₂ [] :=
    fun h => unseen (signalReload_effect h).2 (by simp [ofReload])
  -- nothing is seen behind the first stage
  cases h with
  | unrendered h₁ => exact render h₁
  | refused h₁ h₂ => simpa using (render h₁).trans (dryRun h₂)
  | unwritten h₁ h₂ h₃ => simpa using ((render h₁).trans (dryRun h₂)).trans (replace h₃)
  | unsignalled h₁ h₂ h₃ h₄ =>
    simpa using (((render h₁).trans (dryRun h₂)).trans (replace h₃)).trans (signal h₄)
  | loaded h₁ h₂ h₃ h₄ =>
    simpa using (((render h₁).trans (dryRun h₂)).trans (replace h₃)).trans (signal h₄)

/-- A reader that looks for none of these sees nothing of a reload. -/
theorem Loading.sees_nothing {r : Except Failure Unit} (silent : ∀ a, ofReload a = true → f a = none)
    (h : Loading c settings snapshot s s' r) : Sees f s s' [] := by
  have seen := h.sees fun a reload _ => silent a reload
  rwa [List.filterMap_cons_none (silent _ rfl), List.filterMap_nil] at seen

/-- A reload stores no material. -/
theorem Loading.stores_nothing {r : Except Failure Unit}
    (h : Loading c settings snapshot s s' r) : Sees (piece? store) s s' [] := by
  refine h.sees_nothing fun a reload => ?_
  cases a <;> first | rfl | simp [ofReload] at reload

/-- What is reported of a reload that worked. -/
def loadedReport (snapshot : Snapshot) : List Action :=
  [.recordConfiguration (Fingerprint.of snapshot.structural) true, .countReload, .send .reloaded]

/-- What is reported of a reload that failed. -/
def unloadedReport (snapshot : Snapshot) (e : Failure) : List Action :=
  [.countReloadError, .recordConfiguration (Fingerprint.of snapshot.structural) false,
    .send (.warning ("Error reloading proxy: " ++ e.message))]

theorem reloadAndReport_ok {reason : ReloadReason}
    (h : s.reloadAndReport c settings snapshot reason = (s', .ok ())) :
    ∃ s₁, Loading c settings snapshot (s.record (.decideReload reason)) s₁ (.ok ()) ∧
      s' = { s₁ with actions := s₁.actions ++ loadedReport snapshot } := by
  have course := reload_course c settings (s.record (.decideReload reason)) snapshot
  unfold reloadAndReport at h
  dsimp only at h
  split at h
  · simp at h
  · rename_i s₁ hload
    rw [hload] at course
    cases h
    exact ⟨s₁, course, by simp [record, loadedReport]⟩

theorem reloadAndReport_error {reason : ReloadReason} {e : Failure}
    (h : s.reloadAndReport c settings snapshot reason = (s', .error e)) :
    ∃ s₁, Loading c settings snapshot (s.record (.decideReload reason)) s₁ (.error e) ∧
      s' = { s₁ with actions := s₁.actions ++ unloadedReport snapshot e } := by
  have course := reload_course c settings (s.record (.decideReload reason)) snapshot
  unfold reloadAndReport at h
  dsimp only at h
  split at h
  · rename_i s₁ e' hload
    rw [hload] at course
    cases h
    exact ⟨s₁, course, by simp [record, unloadedReport]⟩
  · simp at h

/-! ## Pushes -/

variable {b : Backoff} {new old : Configuration}

theorem configure_effect (s : Session σ) (c : Collaborators σ) (new old : Configuration) :
    (s.configure c new old).1.tree = s.tree ∧
      (s.configure c new old).1.actions = s.actions ++ [.configure s.now new old] := ⟨rfl, rfl⟩

/-- All that a push does is to hand the same configuration over, in the place of the same one, and it
does so at least once. -/
theorem attempts_effect (c : Collaborators σ) (b : Backoff) (new old : Configuration) :
    ∀ (remaining : Nat) (attempt : UInt32) (s : Session σ),
    (attempts c b new old remaining attempt s).1.tree = s.tree ∧
      ∃ times : List Nat, times ≠ [] ∧ (attempts c b new old remaining attempt s).1.actions =
        s.actions ++ times.map (fun time => .configure time new old) := by
  -- the time of each attempt is all that differs between them
  intro remaining
  induction remaining with
  | zero => exact fun attempt s => ⟨rfl, [s.now], by simp, rfl⟩
  | succ remaining ih =>
    intro attempt s
    obtain ⟨tree, acts⟩ := configure_effect s c new old
    rw [attempts]
    split
    · rename_i s₁ hok
      rw [hok] at tree acts
      exact ⟨tree, [s.now], by simp, acts⟩
    · rename_i s₁ e herror
      rw [herror] at tree acts
      obtain ⟨tree', times, _, acts'⟩ := ih (attempt + 1) (s₁.pause c b attempt)
      refine ⟨tree'.trans tree, s.now :: times, by simp, acts'.trans ?_⟩
      change s₁.actions ++ _ = _
      rw [acts, List.map_cons, List.append_assoc, List.singleton_append]

theorem push_effect {r : Except ControlError Unit} (h : s.push c b new old = (s', r)) :
    s'.tree = s.tree ∧ ∃ times : List Nat, times ≠ [] ∧ s'.actions =
      s.actions ++ times.map (fun time => .configure time new old) := by
  have effect := attempts_effect c b new old (b.steps.toNat - 1) 0 s
  rw [push] at h
  rwa [h] at effect

/-! ## What the stages keep of the world -/

end Session

variable {σ α : Type}

/-- Of the collaborators only the attempts at the control surface change what `view` shows. -/
structure Collaborators.Blind (c : Collaborators σ) (view : σ → α) : Prop where
  render : ∀ w snapshot context, view (c.render w snapshot context).2 = view w
  dryRun : ∀ w artifact, view (c.dryRun w artifact).2.2 = view w
  reload : ∀ w, view (c.reload w).2 = view w
  draw : ∀ w bound, view (c.draw w bound).2 = view w
  disk : ∀ w, view (c.disk w).2 = view w

namespace Session

variable {c : Collaborators σ} {view : σ → α} {settings : ReconcilerSettings} {snapshot : Snapshot}
  {s s' : Session σ}

theorem syncMaterial_keeps (blind : c.Blind view) {store : MaterialStore} {last : Option Snapshot}
    {r : Except Failure Unit} (h : s.syncMaterial c store last snapshot = (s', r)) :
    view s'.world = view s.world := by
  have certificate : ∀ {s s' : Session σ} {x r}, s.syncCertificate c store x = (s', r) →
      view s'.world = view s.world := by
    intro s s' x r h
    unfold syncCertificate at h
    cases h
    exact blind.disk s.world
  have dhParam : ∀ {s s' : Session σ} {x r}, s.syncDhParam c store x = (s', r) →
      view s'.world = view s.world := by
    intro s s' x r h
    unfold syncDhParam at h
    cases h
    exact blind.disk s.world
  obtain ⟨s₁, first, second⟩ := syncMaterial_steps h
  have kept : view s₁.world = view s.world := by
    rcases first with rfl | ⟨_, _, _, stored⟩
    · rfl
    · exact certificate stored
  rcases second with rfl | ⟨_, _, _, stored⟩
  · exact kept
  · exact (dhParam stored).trans kept

theorem Loading.keeps {r : Except Failure Unit} (blind : c.Blind view)
    (h : Loading c settings snapshot s s' r) : view s'.world = view s.world := by
  have render : ∀ {s s' : Session σ} {r}, s.renderArtifact c settings snapshot = (s', r) →
      view s'.world = view s.world := by
    intro s s' r h
    cases h
    exact blind.render s.world snapshot _
  have dryRun : ∀ {s s' : Session σ} {artifact r}, s.dryRun c artifact = (s', r) →
      view s'.world = view s.world := by
    intro s s' artifact r h
    cases h
    exact blind.dryRun s.world artifact
  have replace : ∀ {s s' : Session σ} {path artifact r},
      s.replaceArtifact c path artifact = (s', r) → view s'.world = view s.world := by
    intro s s' path artifact r h
    cases h
    exact blind.disk s.world
  have signal : ∀ {s s' : Session σ} {r}, s.signalReload c = (s', r) →
      view s'.world = view s.world := by
    intro s s' r h
    cases h
    exact blind.reload s.world
  cases h with
  | unrendered h₁ => exact render h₁
  | refused h₁ h₂ => exact (dryRun h₂).trans (render h₁)
  | unwritten h₁ h₂ h₃ => exact (replace h₃).trans ((dryRun h₂).trans (render h₁))
  | unsignalled h₁ h₂ h₃ h₄ =>
    exact (signal h₄).trans ((replace h₃).trans ((dryRun h₂).trans (render h₁)))
  | loaded h₁ h₂ h₃ h₄ =>
    exact (signal h₄).trans ((replace h₃).trans ((dryRun h₂).trans (render h₁)))

end Session

end IngressControl
