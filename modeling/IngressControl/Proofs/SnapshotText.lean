import IngressControl.Proofs.Json.Shapes
import IngressControl.Snapshot.Format

/-!
# The text of a snapshot

A snapshot that is written as JSON and read again is the snapshot it was (`Snapshot.parse_render`), and
so different snapshots have different texts: what is left out is told from what is written, be it empty
or equal to the value that is taken in its absence.

All records that a snapshot is made of have sound shapes. Which fields are left out, and which integers
they hold, is said by the shapes alone; a record with another field is sound for the same reasons.
-/

namespace IngressControl

open Json (Shape Field Fields)
open IntegerRange (uint16_fits uint32_fits int64_fits)

attribute [local simp] Shape.Sound Field.Sound Fields.Sound Fields.names

theorem Endpoint.shape_sound : Endpoint.shape.Sound := by
  simp [shape, uint16_fits, uint32_fits]

theorem Backend.shape_sound : Backend.shape.Sound := by
  simp [shape, Endpoint.shape_sound]

theorem Location.shape_sound : Location.shape.Sound := by
  simp [shape]

theorem Certificate.shape_sound : Certificate.shape.Sound := by
  simp [shape, int64_fits]

theorem DhParam.shape_sound : DhParam.shape.Sound := by
  simp [shape]

theorem Server.shape_sound : Server.shape.Sound := by
  simp [shape, uint16_fits, Certificate.shape_sound, Location.shape_sound]

theorem Service.shape_sound : Service.shape.Sound := by
  simp [shape, uint16_fits, Endpoint.shape_sound]

theorem Snapshot.shape_sound : Snapshot.shape.Sound := by
  simp [shape, int64_fits, Backend.shape_sound, Server.shape_sound, Service.shape_sound,
    Certificate.shape_sound, DhParam.shape_sound]

theorem Configuration.shape_sound : Configuration.shape.Sound := by
  simp [shape, Backend.shape_sound, Server.shape_sound, Service.shape_sound]

/-- **A snapshot is read back from its text**, and no other snapshot has that text. -/
theorem Snapshot.parse_render (s : Snapshot) :
    parse s.render = .ok s ∧ ∀ t : Snapshot, t.render = s.render ↔ t = s := by
  refine ⟨shape.parse_of_sound shape_sound s, fun t => ⟨fun same => ?_, congrArg render⟩⟩
  exact shape.render_injective shape_sound same

/-- A field with a default is always written. An optional one is left out when it is absent, and only
then. -/
example : Backend.shape.render ⟨"a", [⟨"b", 80, 1⟩], none⟩ =
      "\x7b\"name\":\"a\",\"endpoints\":[\x7b\"address\":\"b\",\"port\":80,\"weight\":1\x7d]\x7d" ∧
    Backend.shape.render ⟨"a", [], some ""⟩ =
      "\x7b\"name\":\"a\",\"endpoints\":[],\"load_balance\":\"\"\x7d" := by
  decide +kernel

/-- No two configurations have the same text. -/
theorem Configuration.render_injective {a b : Configuration} (h : a.render = b.render) : a = b :=
  shape.render_injective shape_sound h

end IngressControl
