import IngressControl.Proofs.MaterialNames
import IngressControl.Proofs.MaterialOnDisk

/-!
# TLS material stays in its directory

A reload names the files of the default material in the artifact, and does not look at the names it
makes them of. These are looked at where the material is stored, and storing is left out for material
with the key of the last applied snapshot. So no name leads out of the directory only because none of
the last applied snapshot does (`wellNamed_reached`): its names were looked at when it was applied, or
are those of the snapshot applied before.

`material_confined` says it of every call of every run, for what is stored, what changes on disk and
what the renderer is given.
-/

namespace IngressControl

/-- The names that the files of a snapshot's default material go by. -/
def Snapshot.fileNames (s : Snapshot) : List String :=
  (s.defaultCertificate.map fun x => MaterialStore.fileName x.name).toList ++
    (s.dhParam.map (·.name)).toList

/-- All of them are plain. -/
def Snapshot.WellNamed (s : Snapshot) : Prop := ∀ name ∈ s.fileNames, MaterialStore.Plain name

theorem Snapshot.wellNamed_iff {s : Snapshot} : s.WellNamed ↔
    (∀ x, s.defaultCertificate = some x → MaterialStore.Plain (MaterialStore.fileName x.name)) ∧
      ∀ x, s.dhParam = some x → MaterialStore.Plain x.name := by
  simp [Snapshot.WellNamed, Snapshot.fileNames, or_imp, forall_and]

/-- What of a snapshot's material can be stored is confined, even where the rest of it is not. -/
theorem MaterialStore.storable_confined {store : MaterialStore} {snapshot : Snapshot} {p : Piece}
    (h : p ∈ store.storable snapshot) :
    ∃ name ∈ snapshot.fileNames, store.Confines name p.path := by
  rw [storable, List.mem_append] at h
  rcases h with h | h
  · obtain ⟨x, ⟨hx, takes⟩, rfl⟩ : ∃ x, (snapshot.defaultCertificate = some x ∧
        takesCertificate x.name = true) ∧ store.certificatePiece x = p := by
      simpa [Option.filter_eq_some_iff] using h
    exact ⟨fileName x.name, by simp [Snapshot.fileNames, hx],
      (takesCertificate_iff.mp takes).confines store⟩
  · obtain ⟨x, ⟨hx, valid⟩, rfl⟩ : ∃ x, (snapshot.dhParam = some x ∧ isValidName x.name = true) ∧
        store.dhParamPiece x = p := by
      simpa [Option.filter_eq_some_iff] using h
    exact ⟨x.name, by simp [Snapshot.fileNames, hx], (isValidName_iff.mp valid).confines store⟩

namespace Reconciler

variable {σ : Type} {c : Collaborators σ} {settings : ReconcilerSettings} {snapshot : Snapshot}
  {r r' : Reconciler} {s s' s₁ : Session σ} {o : Outcome} {p : Reconciler × Session σ}

/-! ## The last applied snapshot -/

/-- The names of a snapshot whose material is in step are plain: they were looked at, or the last
applied snapshot has them. -/
theorem wellNamed_of_synced {store : MaterialStore} {last : Option Snapshot}
    (earlier : ∀ a, last = some a → a.WellNamed)
    (sync : s.syncMaterial c store last snapshot = (s', .ok ())) : snapshot.WellNamed := by
  have taken := (Session.syncMaterial_ok sync).takes
  refine Snapshot.wellNamed_iff.mpr ⟨fun x hx => ?_, fun x hx => ?_⟩
  · by_cases same : (MaterialKey.of last).certificate = (MaterialKey.of (some snapshot)).certificate
    · obtain ⟨a, ha, y, hy, name, _⟩ := Session.certificate_of_key hx same
      exact name ▸ (Snapshot.wellNamed_iff.mp (earlier a ha)).1 y hy
    · have stored : Action.storeCertificate x ∈ Session.outdated last snapshot := by
        rw [Session.outdated, Session.outdatedCertificate, if_neg same, hx]
        simp
      exact MaterialStore.takesCertificate_iff.mp (taken _ stored).2
  · by_cases same : (MaterialKey.of last).dhParam = (MaterialKey.of (some snapshot)).dhParam
    · obtain ⟨a, ha, y, hy, name, _⟩ := Session.dhParam_of_key hx same
      exact name ▸ (Snapshot.wellNamed_iff.mp (earlier a ha)).2 y hy
    · have stored : Action.storeDhParam x ∈ Session.outdated last snapshot := by
        rw [Session.outdated, Session.outdatedDhParam, if_neg same, hx]
        simp
      exact MaterialStore.isValidName_iff.mp (taken _ stored).2

/-- **Every call keeps the names plain.** -/
theorem wellNamed_call (earlier : ∀ a, p.1.applied.snapshot = some a → a.WellNamed) :
    ∀ a, (callOf c settings p snapshot).after.1.applied.snapshot = some a → a.WellNamed := by
  rcases course_material (callOf_course c settings p snapshot) with
    ⟨_, _, _, same⟩ | ⟨_, _, _, _, _, _, _, same⟩ | ⟨_, _, sync, _, _, _, ⟨_, new⟩ | ⟨_, same⟩⟩
  · rwa [same]
  · rwa [same]
  · rw [new]
    rintro a ⟨⟩
    exact wellNamed_of_synced earlier sync
  · rwa [same]

/-- The names of the last applied snapshot are plain in every state that a run reaches. -/
theorem wellNamed_reached (c : Collaborators σ) (settings : ReconcilerSettings) (s : Session σ)
    (xs : List Snapshot) :
    ∀ a, (reached c settings xs (start, s)).1.applied.snapshot = some a → a.WellNamed := by
  refine history_induction
    (P := fun _ q => ∀ a, q.1.applied.snapshot = some a → a.WellNamed) ?_ xs ?_
  · simp [start]
  · exact fun _ _ _ _ earlier => wellNamed_call earlier

/-! ## What the renderer is given -/

/-- What an action gives to the renderer. -/
def rendered? : Action → Option RenderContext
  | .render context => some context
  | _ => none

/-- A reload gives the renderer the context of its snapshot, whether or not it works. -/
theorem loading_renders {e : Except Failure Unit}
    (h : Session.Loading c settings snapshot s s' e) :
    Session.Sees rendered? s s' [settings.context snapshot] := by
  refine h.sees fun a _ other => ?_
  cases a with
  | render context => exact absurd rfl (other context)
  | _ => rfl

theorem prepared_renders {reloaded : Bool} (h : Prepared c settings r snapshot s reloaded s') :
    ∃ found ⊆ [settings.context snapshot], Session.Sees rendered? s s' found := by
  cases h with
  | running calls => exact ⟨[], by simp, .of_same rfl⟩
  | reloaded calls load =>
    obtain ⟨s₁, course, rfl⟩ := Session.reloadAndReport_ok load
    exact ⟨_, List.Subset.refl _, sees_reported rfl rfl (loading_renders course)⟩

theorem sync_renders_nothing {last : Option Snapshot} {e : Except Failure Unit}
    (sync : (s.observeCertificates snapshot).syncMaterial c settings.store last snapshot = (s', e)) :
    Session.Sees rendered? s s' [] := by
  refine Session.syncMaterial_sees (fun _ => ⟨rfl, rfl⟩) (fun a p hp => ?_) sync
  cases a with
  | render context => simp [Session.piece?] at hp
  | _ => rfl

theorem pushing_renders {reloaded : Bool} {result : Except ControlError Unit} {figures : List Action}
    (silent : figures.filterMap rendered? = [])
    (h : Pushing c settings r s snapshot reloaded s' result) :
    ∃ found ⊆ [settings.context snapshot],
      Session.Sees rendered? s { s' with actions := s'.actions ++ figures } found := by
  obtain ⟨sync, prepared, push⟩ := h
  obtain ⟨found, sub, sees⟩ := prepared_renders prepared
  have pushes := (push_quiet (fun _ => rfl) rfl silent push).1
  exact ⟨found, sub, by simpa using ((sync_renders_nothing sync).trans sees).trans pushes⟩

/-- The renderer is given the context of the snapshot at most, and that only once the material is in
step. -/
theorem course_renders (h : Course c settings r s snapshot r' s' o) :
    Session.Sees rendered? s s' [] ∨
      ∃ s₁, (s.observeCertificates snapshot).syncMaterial c settings.store r.applied.snapshot
          snapshot = (s₁, .ok ()) ∧
        ∃ found ⊆ [settings.context snapshot], Session.Sees rendered? s s' found := by
  cases h with
  | stale old => exact Or.inl (.of_same rfl)
  | unsynced news sync => exact Or.inl ((sync_renders_nothing sync).record rfl)
  | unchanged news sync same => exact Or.inl (sync_renders_nothing sync)
  | @unloaded s₁ _ e news sync calls load =>
    obtain ⟨s₂, course, rfl⟩ := Session.reloadAndReport_error load
    have sees : Session.Sees rendered? s₁
        { s₂ with actions := s₂.actions ++ Session.unloadedReport snapshot e }
        [settings.context snapshot] := sees_reported rfl rfl (loading_renders course)
    exact Or.inr ⟨s₁, sync, _, List.Subset.refl _, (sync_renders_nothing sync).trans sees⟩
  | pushed news sync differs prepared push =>
    exact Or.inr ⟨_, sync, pushing_renders rfl ⟨sync, prepared, push⟩⟩
  | unpushed news sync differs prepared push =>
    exact Or.inr ⟨_, sync, pushing_renders rfl ⟨sync, prepared, push⟩⟩

/-- What is rendered in a call is the context of its snapshot, with plain names. -/
theorem call_renders (earlier : ∀ a, p.1.applied.snapshot = some a → a.WellNamed)
    {context : RenderContext} (h : .render context ∈ (callOf c settings p snapshot).actions) :
    context = settings.context snapshot ∧ snapshot.WellNamed := by
  have found : context ∈ (callOf c settings p snapshot).actions.filterMap rendered? :=
    List.mem_filterMap.mpr ⟨_, h, rfl⟩
  rcases course_renders (callOf_course c settings p snapshot) with
    nothing | ⟨_, sync, contexts, sub, sees⟩
  · rw [Call.filterMap_actions (k := callOf c settings p snapshot) nothing] at found
    simp at found
  · rw [Call.filterMap_actions (k := callOf c settings p snapshot) sees] at found
    exact ⟨List.mem_singleton.mp (sub found), wellNamed_of_synced earlier sync⟩

/-! ## Calls that keep to the directory -/

/-- All that a call does with TLS files is right in the directory. -/
structure Call.Confined (c : Collaborators σ) (settings : ReconcilerSettings) (k : Call σ) : Prop
    where
  /-- What is stored goes to the files of the snapshot's names. -/
  stored : ∀ piece ∈ k.stored settings.store,
    ∃ name ∈ k.snapshot.fileNames, settings.store.Confines name piece.path
  /-- The files written for that are entries of the directory, wherever it leads. -/
  files : ∀ l, (k.synced c settings).tree.fileAt l ≠ k.before.2.tree.fileAt l →
    ∃ name ∈ k.snapshot.fileNames, MaterialStore.Plain name ∧
      ∃ d, k.before.2.tree.leadsTo? settings.store.directory = some d ∧ l = (name ++ ".pem") :: d
  /-- Behind that no file is written but the live artifact. -/
  elsewhere : ∀ l, k.after.2.tree.fileAt l ≠ (k.synced c settings).tree.fileAt l →
    (k.synced c settings).tree.place? settings.configFile = some l
  /-- The renderer is given the path of the default certificate's file. -/
  certificate : ∀ context, .render context ∈ k.actions →
    ∀ path, context.defaultCertificate = some path → ∃ x, k.snapshot.defaultCertificate = some x ∧
      settings.store.Confines (MaterialStore.fileName x.name) path
  /-- And of the parameters' file. -/
  dhParam : ∀ context, .render context ∈ k.actions →
    ∀ path, context.dhParam = some path → ∃ x, k.snapshot.dhParam = some x ∧
      settings.store.Confines x.name path

theorem call_confined (earlier : ∀ a, p.1.applied.snapshot = some a → a.WellNamed) :
    (callOf c settings p snapshot).Confined c settings := by
  obtain ⟨deposits, storable, wrote⟩ := callOf_deposits c settings p snapshot
  refine ⟨fun piece hpiece => MaterialStore.storable_confined (storable piece hpiece),
    fun l changed => ?_, fun l changed => ?_, fun context rendering path hpath => ?_,
    fun context rendering path hpath => ?_⟩
  · by_contra outside
    refine changed (deposits.rewrites.fileAt fun path hpath place => outside ?_)
    obtain ⟨piece, hpiece, rfl⟩ := List.mem_map.mp hpath
    obtain ⟨name, hname, confines⟩ := MaterialStore.storable_confined (storable piece hpiece)
    rw [FileTree.place?_child confines.child] at place
    obtain ⟨d, hd, rfl⟩ := Option.map_eq_some_iff.mp place
    exact ⟨name, hname, confines.plain, d, hd, rfl⟩
  · by_contra apart
    exact changed (wrote.fileAt (by simpa using apart))
  · obtain ⟨rfl, named⟩ := call_renders earlier rendering
    obtain ⟨x, hx, rfl⟩ := Option.map_eq_some_iff.mp hpath
    exact ⟨x, hx, ((Snapshot.wellNamed_iff.mp named).1 x hx).confines settings.store⟩
  · obtain ⟨rfl, named⟩ := call_renders earlier rendering
    obtain ⟨x, hx, rfl⟩ := Option.map_eq_some_iff.mp hpath
    exact ⟨x, hx, ((Snapshot.wellNamed_iff.mp named).2 x hx).confines settings.store⟩

/-- **TLS material stays in its directory.** No call of any run stores or renders a path that leads
out of it, whatever names the snapshots have and whatever the collaborators answer. In every state
that a run reaches the names of the last applied snapshot are plain. -/
theorem material_confined (c : Collaborators σ) (settings : ReconcilerSettings) (s : Session σ)
    (xs : List Snapshot) :
    (∀ k ∈ history c settings xs (start, s), k.Confined c settings) ∧
      ∀ a, (reached c settings xs (start, s)).1.applied.snapshot = some a → a.WellNamed := by
  refine ⟨fun k hk => ?_, wellNamed_reached c settings s xs⟩
  obtain ⟨ys, x, _, rfl⟩ := history_mem hk
  exact call_confined (wellNamed_reached c settings s ys)

/-- A snapshot with material of these names. -/
def named (generation : Int64) (certificate dhParam checksum : String) : Snapshot where
  generation := generation
  sourceChecksum := checksum
  defaultCertificate := some { name := certificate, pem := "A" }
  dhParam := some ⟨dhParam, "B"⟩

/-- One without a name for its certificate, and one whose certificate would go beside the live artifact,
out of the directory. -/
def strayed : List Snapshot := [named 1 "" "dhparam" "a", named 2 "../nginx" "dhparam" "a"]

/-- The first one again, with other settings behind it. -/
def renewed : Call Script :=
  callOf Script.collaborators sampleSettings
    (reached Script.collaborators sampleSettings strayed (start, opening {}))
    (named 3 "" "dhparam" "b")

theorem renewed_run :
    (history Script.collaborators sampleSettings strayed (start, opening {})).map
        (·.outcome.kind) = [.success, .certificateWriteFailed] ∧
      renewed.stored sampleSettings.store = [] ∧
      .render (sampleSettings.context (named 3 "" "dhparam" "b")) ∈ renewed.actions ∧
      renewed.after.1.applied.snapshot = some (named 3 "" "dhparam" "b") := by
  decide +kernel

/-- It stores nothing and so looks at no name, but it reloads the proxy: the names that it renders are
those that the first call had looked at. -/
theorem renewed_confined :
    renewed.stored sampleSettings.store = [] ∧
      (.render (sampleSettings.context (named 3 "" "dhparam" "b")) ∈ renewed.actions ∧
        renewed.Confined Script.collaborators sampleSettings) ∧
      renewed.after.1.applied.snapshot = some (named 3 "" "dhparam" "b") ∧
      (named 3 "" "dhparam" "b").WellNamed := by
  obtain ⟨_, stored, rendering, applied⟩ := renewed_run
  obtain ⟨calls, last⟩ := material_confined Script.collaborators sampleSettings (opening {})
    (strayed ++ [named 3 "" "dhparam" "b"])
  have called : renewed ∈ history Script.collaborators sampleSettings
      (strayed ++ [named 3 "" "dhparam" "b"]) (start, opening {}) := by
    rw [renewed]
    exact callOf_mem_history _ _ _
  refine ⟨stored, ⟨rendering, calls renewed called⟩, applied, last _ ?_⟩
  rw [renewed] at applied
  rw [reached_snoc]
  exact applied

end Reconciler

end IngressControl
