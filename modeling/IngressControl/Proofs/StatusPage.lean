import IngressControl.Proofs.Json.Records
import IngressControl.Reconciler.Status

/-!
# What the status page says

The page gives the version of the controller and its published status as one JSON object. Somebody who
reads that object with the reader for documents, and the kind of the outcome by its name, finds the
status itself, so nothing of it is lost and two statuses never share a page (`read?_statusBody`).

What is absent is written as `null`. The kinds have different names, and an error is told in its full
text, whatever characters it is made of.
-/

namespace IngressControl

namespace OutcomeKind

/-- All kinds of outcomes. -/
def all : List OutcomeKind :=
  [.success, .noChange, .staleSnapshot, .certificateWriteFailed, .dhParamWriteFailed, .renderFailed,
    .validationFailed, .artifactWriteFailed, .reloadSignalFailed, .dynamicPushFailed]

/-- The kind of this name. -/
def named? (name : String) : Option OutcomeKind := all.find? fun kind => kind.name = name

theorem named?_name (kind : OutcomeKind) : named? kind.name = some kind := by
  cases kind <;> decide

end OutcomeKind

theorem Decimal.ofInt_natCast (n : Nat) : Decimal.ofInt n = Decimal.ofNat n := by
  rw [Decimal.ofInt, if_neg (Int.not_lt.mpr (Int.natCast_nonneg n)), Int.natAbs_natCast]

/-- Fingerprints as integers of a document. -/
def Fingerprint.range : IntegerRange Fingerprint where
  name := IntegerRange.uint64.name
  toInt f := IntegerRange.uint64.toInt f.value
  ofInt? n := (IntegerRange.uint64.ofInt? n).map .mk
  ofInt?_toInt f := by rw [IntegerRange.ofInt?_toInt, Option.map_some]

namespace StatusPage

open Json (Shape Fields Reads)

/-- An outcome as the page tells it, with its kind by name. -/
structure Entry where
  kind : String
  generation : Int64
  fingerprint : Fingerprint
  reloaded : Bool
  error : Option String

def Entry.shape : Shape Entry :=
  .record "OutcomeSummary"
    (.cons "kind" (.required .text) <|
      .cons "generation" (.required (.integer .int64)) <|
      .cons "fingerprint" (.required (.integer Fingerprint.range)) <|
      .cons "reloaded" (.required .flag) <|
      .cons "error" (.optional .text) .nil)
    (fun (kind, generation, fingerprint, reloaded, error, _) =>
      ⟨kind, generation, fingerprint, reloaded, error⟩)
    (fun e => (e.kind, e.generation, e.fingerprint, e.reloaded, e.error, ()))
    (fun _ => rfl)

/-- The outcome that an entry tells of. -/
def Entry.summary? (e : Entry) : Option Summary :=
  (OutcomeKind.named? e.kind).map fun kind =>
    ⟨kind, e.generation, e.fingerprint, e.reloaded, e.error⟩

/-- The page as a document. -/
structure Document where
  version : String
  generation : Option Int64
  fingerprint : Option Fingerprint
  lastOutcome : Option Entry

def Document.shape : Shape Document :=
  .record "StatusResponse"
    (.cons "version" (.required .text) <|
      .cons "generation" (.optional (.integer .int64)) <|
      .cons "fingerprint" (.optional (.integer Fingerprint.range)) <|
      .cons "last_outcome" (.optional Entry.shape) .nil)
    (fun (version, generation, fingerprint, lastOutcome, _) =>
      ⟨version, generation, fingerprint, lastOutcome⟩)
    (fun d => (d.version, d.generation, d.fingerprint, d.lastOutcome, ()))
    (fun _ => rfl)

/-- The status that a document tells of. -/
def Document.status? (d : Document) : Option Status :=
  match d.lastOutcome with
  | none => some ⟨d.generation, d.fingerprint, none⟩
  | some e => e.summary?.map fun o => ⟨d.generation, d.fingerprint, some o⟩

/-- What a page says: the version and the status. -/
def read? (body : String) : Option (String × Status) :=
  match Document.shape.parse body with
  | .ok d => d.status?.map fun s => (d.version, s)
  | .error _ => none

/-! ## The parts of the page -/

attribute [local simp] Fields.names

theorem reads_generation (g : Int64) :
    Reads (Shape.integer .int64).read (Decimal.ofInt g.toInt) g := by
  have low := Int64.le_toInt g
  have high := Int64.toInt_lt g
  refine Json.reads_integer .int64 (a := g) ?_ ?_ <;> simp only [IntegerRange.int64] <;> omega

theorem text_eq (f : Fingerprint) : f.text = Decimal.ofInt (Fingerprint.range.toInt f) :=
  (Decimal.ofInt_natCast _).symm

theorem reads_fingerprint (f : Fingerprint) :
    Reads (Shape.integer Fingerprint.range).read f.text f := by
  have high := f.value.toNat_lt
  rw [text_eq]
  refine Json.reads_integer Fingerprint.range ?_ ?_ <;>
    simp only [Fingerprint.range, IntegerRange.uint64] <;> omega

/-- The entry of an outcome. -/
def Entry.of (o : Summary) : Entry :=
  ⟨o.kind.name, o.generation, o.fingerprint, o.reloaded, o.error⟩

theorem Entry.summary?_of (o : Summary) : (Entry.of o).summary? = some o := by
  rw [summary?, of, OutcomeKind.named?_name, Option.map_some]

theorem reads_entry (o : Summary) : Reads Entry.shape.read o.write (Entry.of o) := by
  refine Json.reads_record (.shows (Json.reads_text _) (by simp) ?_)
  refine .shows (reads_generation _) (by simp) ?_
  refine .shows (reads_fingerprint _) (by simp) ?_
  refine .shows (Json.reads_flag _) (by simp) ?_
  exact .shows (Json.reads_orNull Json.quoted_opens Json.reads_text _) (by simp) .nil

/-- The document of a status. -/
def Document.of (s : Status) : Document :=
  ⟨StatusPage.version, s.generation, s.fingerprint, s.lastOutcome.map Entry.of⟩

theorem Document.status?_of (s : Status) : (Document.of s).status? = some s := by
  obtain ⟨generation, fingerprint, lastOutcome⟩ := s
  cases lastOutcome with
  | none => rfl
  | some o => simp [status?, Document.of, Entry.summary?_of]

theorem reads_lastOutcome (o : Option Summary) :
    Reads (Json.optionOf Entry.shape.read) (Json.orNull Summary.write o) (o.map Entry.of) := by
  cases o with
  | none => exact Json.reads_null _
  | some o => exact Json.reads_some (Json.object_opens _) (reads_entry o)

theorem parse_statusBody (s : Status) :
    Document.shape.parse (statusBody s) = .ok (Document.of s) := by
  have opens : ∀ f : Fingerprint, Json.Opens f.text := fun f => text_eq f ▸ Json.ofInt_opens _
  refine Shape.parse_of_reads (Json.reads_record ?_)
  refine .shows (Json.reads_text _) (by simp) ?_
  refine .shows (Json.reads_orNull (fun _ => Json.ofInt_opens _) reads_generation _) (by simp) ?_
  refine .shows (Json.reads_orNull opens reads_fingerprint _) (by simp) ?_
  exact .shows (reads_lastOutcome _) (by simp) .nil

/-- The page says what the status is. -/
theorem read?_statusBody (s : Status) : read? (statusBody s) = some (version, s) := by
  rw [read?, parse_statusBody]
  simp only [Document.status?_of, Option.map_some]
  rfl

end StatusPage

end IngressControl
