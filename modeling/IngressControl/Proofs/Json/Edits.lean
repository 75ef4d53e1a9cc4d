import IngressControl.Proofs.Json.Shapes

/-!
# Documents that say the same

A document can be edited without changing what it says: the members of an object stand in any order,
members that are no fields are put between them, and a field that has its default is left out. Other
edits take something away: a field without a default is left out. All of this can happen in any object
of a document, at any depth.

`Edits` describes what may be made of a document, without a reader. A shape follows the edits of a value
(`Shape.Follows`) when its reader answers to each of them as it should: with the value, when nothing is
missing, and else with a field that is. There is one lemma for each kind of value, so that a record
follows the edits of its fields.
-/

namespace IngressControl.Json

/-! ## Edits -/

/-- The texts that a document may be edited to, each with the names of the fields that are left out
although they have no default. -/
def Edits := (missing : List String) → (text : List Char) → Prop

/-- How a field of a record may be edited. -/
inductive Entry where
  /-- The field has no default. -/
  | required (value : Edits)
  /-- The field has a default, and may be left out when it has that value. -/
  | defaulted (isDefault : Prop) (value : Edits)

/-- The edits of the field's value. -/
def Entry.value : Entry → Edits
  | .required value => value
  | .defaulted _ value => value

/-- The members that are left of a record's fields, and what is missing from them. -/
inductive Kept : List (String × Entry) → (missing : List String) → List (String × List Char) → Prop
  | nil : Kept [] [] []
  | kept {name : String} {entry : Entry} {entries : List (String × Entry)} {lost missing : List String}
      {text : List Char} {ms : List (String × List Char)} (edited : entry.value lost text)
      (others : Kept entries missing ms) :
      Kept ((name, entry) :: entries) (lost ++ missing) ((name, text) :: ms)
  | spared {name : String} {isDefault : Prop} {value : Edits} {entries : List (String × Entry)}
      {missing : List String} {ms : List (String × List Char)} (default : isDefault)
      (others : Kept entries missing ms) :
      Kept ((name, .defaulted isDefault value) :: entries) missing ms
  | missed {name : String} {value : Edits} {entries : List (String × Entry)} {missing : List String}
      {ms : List (String × List Char)} (others : Kept entries missing ms) :
      Kept ((name, .required value) :: entries) (name :: missing) ms

/-- Nothing is missing from a member. -/
theorem Kept.whole {name : String} {text : List Char} {entry : Entry}
    {entries : List (String × Entry)} {missing : List String} {ms : List (String × List Char)}
    (edited : entry.value [] text) (others : Kept entries missing ms) :
    Kept ((name, entry) :: entries) missing ((name, text) :: ms) :=
  .kept edited others

/-- The elements of a list, each edited, and what is missing from them. -/
inductive KeptAll : List Edits → (missing : List String) → List (List Char) → Prop
  | nil : KeptAll [] [] []
  | cons {item : Edits} {items : List Edits} {lost missing : List String} {text : List Char}
      {texts : List (List Char)} (edited : item lost text) (others : KeptAll items missing texts) :
      KeptAll (item :: items) (lost ++ missing) (text :: texts)

namespace Edits

/-- Nothing is edited. -/
def exactly (written : List Char) : Edits := fun missing text => missing = [] ∧ text = written

def integer (n : Int) : Edits := exactly (Decimal.ofInt n)

def flag (b : Bool) : Edits := exactly (boolean b)

def text (s : String) : Edits := exactly (quoted s)

/-- The edits of a value that may be absent. -/
def orNull {α : Type} (edits : α → Edits) : Option α → Edits
  | none => exactly null
  | some a => edits a

/-- Elements are edited each by itself. -/
def list (items : List Edits) : Edits := fun missing text =>
  ∃ texts, KeptAll items missing texts ∧ text = Json.list texts

/-- Fields are edited each by itself, some are left out, others are put between them that are none of
the record, and all are put into any order. -/
def record (entries : List (String × Entry)) : Edits := fun missing text =>
  ∃ written foreign ms, Kept entries missing written ∧
    (∀ m ∈ foreign, m.1 ∉ entries.map Prod.fst ∧ IsValue m.2) ∧
    ms.Perm (written ++ foreign) ∧ text = object ms

end Edits

/-! ## Shapes that follow edits -/

variable {α β γ : Type}

/-- A value is written as one of these texts, and its reader answers to all of them. -/
structure Shape.Follows (shape : Shape α) (a : α) (edits : Edits) : Prop where
  written : edits [] (shape.write a)
  begins : ∀ {missing text}, edits missing text → Begins text
  answers : ∀ {missing text}, edits missing text → Answers shape.read a missing text

/-- A field follows the edits of its value, and its default is the one that the edits go by. -/
inductive Field.Follows : {α : Type} → Field α → α → Entry → Prop
  | required {α : Type} {shape : Shape α} {a : α} {edits : Edits} (value : shape.Follows a edits) :
      (Field.required shape).Follows a (.required edits)
  | defaulted {α : Type} {default : α} {shape : Shape α} {a : α} {edits : Edits}
      (value : shape.Follows a edits) :
      (Field.defaulted default shape).Follows a (.defaulted (a = default) edits)
  | optional {α : Type} {shape : Shape α} {a : Option α} {edits : α → Edits}
      (value : ∀ x, shape.Follows x (edits x)) :
      (Field.optional shape).Follows a (.defaulted (a = none) (.orNull edits a))

/-- The fields of a record follow the edits of one value each. -/
inductive Fields.Follows : {β γ : Type} → Fields β γ → β → List (String × Entry) → Prop
  | nil : Fields.nil.Follows () []
  | cons {α β γ : Type} {name : String} {field : Field α} {others : Fields β γ} {a : α} {b : β}
      {entry : Entry} {entries : List (String × Entry)} (new : name ∉ others.names)
      (first : field.Follows a entry) (rest : others.Follows b entries) :
      (Fields.cons name field others).Follows (a, b) ((name, entry) :: entries)

/-! ### Scalars and lists -/

/-- A value that is not edited has to be read back. -/
theorem Shape.follows_exactly {shape : Shape α} {a : α} (reads : Reads shape.read (shape.write a) a) :
    shape.Follows a (.exactly (shape.write a)) where
  written := ⟨rfl, rfl⟩
  begins := by
    rintro _ _ ⟨rfl, rfl⟩
    exact shape.write_begins a
  answers := by
    rintro _ _ ⟨rfl, rfl⟩
    exact .reads reads

theorem Shape.follows_integer {range : IntegerRange α} (fits : range.Fits) (a : α) :
    (Shape.integer range).Follows a (.integer (range.toInt a)) := by
  have follows := follows_exactly ((Shape.integer range).reads_write fits a)
  rwa [Shape.write] at follows

theorem Shape.follows_flag (b : Bool) : Shape.flag.Follows b (.flag b) := by
  have follows := follows_exactly (Shape.flag.reads_write trivial b)
  rwa [Shape.write] at follows

theorem Shape.follows_text (s : String) : Shape.text.Follows s (.text s) := by
  have follows := follows_exactly (Shape.text.reads_write trivial s)
  rwa [Shape.write] at follows

section

variable {item : Shape α} {edits : α → Edits}

theorem keptAll_written (follows : ∀ a, item.Follows a (edits a)) (as : List α) :
    KeptAll (as.map edits) [] (as.map item.write) := by
  induction as with
  | nil => exact .nil
  | cons a as ih => exact .cons (follows a).written ih

theorem KeptAll.shownIn (follows : ∀ a, item.Follows a (edits a)) (as : List α) :
    ∀ {missing texts}, KeptAll (as.map edits) missing texts → ShownIn item.read as missing texts := by
  induction as with
  | nil =>
    intro missing texts kept
    cases kept
    exact .nil
  | cons a as ih =>
    intro missing texts kept
    obtain _ | ⟨edited, others⟩ := kept
    exact .cons ((follows a).begins edited) ((follows a).answers edited) (ih others)

/-- A list follows the edits of its elements. -/
theorem Shape.follows_list (follows : ∀ a, item.Follows a (edits a)) (as : List α) :
    (Shape.list item).Follows as (.list (as.map edits)) where
  written := by
    rw [Shape.write]
    exact ⟨_, keptAll_written follows as, rfl⟩
  begins := by
    rintro _ _ ⟨texts, _, rfl⟩
    exact begins_cons _ (by decide)
  answers := by
    rintro _ _ ⟨texts, kept, rfl⟩
    rw [Shape.read]
    exact list_answers (kept.shownIn follows as)

end

/-! ### Records -/

section

variable {field : Field α} {a : α} {entry : Entry} {fields : Fields β γ} {b : β}
  {entries : List (String × Entry)} {missing : List String}

theorem Field.Follows.answers (h : field.Follows a entry) {lost : List String} {text : List Char}
    (edited : entry.value lost text) : Answers field.read a lost text := by
  cases h with
  | required value => exact value.answers edited
  | defaulted value => exact value.answers edited
  | @optional _ _ a _ value =>
    cases a with
    | none =>
      obtain ⟨rfl, rfl⟩ := edited
      exact .reads (reads_null _)
    | some x => exact ((value x).answers edited).some ((value x).begins edited).opens.1

/-- A field that is not written is one that may be left out. -/
theorem Field.Follows.written (h : field.Follows a entry) :
    (∃ text, field.write? a = some text ∧ entry.value [] text) ∨
      (field.write? a = none ∧ ∃ isDefault value, entry = .defaulted isDefault value ∧ isDefault) := by
  cases h with
  | required value => exact Or.inl ⟨_, rfl, value.written⟩
  | defaulted value => exact Or.inl ⟨_, rfl, value.written⟩
  | @optional _ _ a _ value =>
    cases a with
    | none => exact Or.inr ⟨rfl, _, _, rfl, rfl⟩
    | some x => exact Or.inl ⟨_, rfl, (value x).written⟩

theorem Fields.Follows.names (h : fields.Follows b entries) :
    entries.map Prod.fst = fields.names := by
  induction h with
  | nil => rfl
  | cons _ _ _ ih => rw [List.map_cons, ih, Fields.names]

theorem Fields.Follows.written (h : fields.Follows b entries) : Kept entries [] (fields.write b) := by
  induction h with
  | nil => exact .nil
  | cons _ first _ ih =>
    rw [Fields.write]
    rcases first.written with ⟨text, written, edited⟩ | ⟨left, isDefault, value, rfl, default⟩
    · rw [written]
      exact .kept edited ih
    · rw [left]
      exact .spared default ih

/-- What is left of the fields shows them. -/
theorem Kept.shownBy {ms : List (String × List Char)} (h : fields.Follows b entries)
    (kept : Kept entries missing ms) : fields.ShownBy b missing ms := by
  induction h generalizing missing ms with
  | nil =>
    cases kept
    exact .nil
  | cons new first _ ih =>
    cases kept with
    | kept edited others => exact .present (first.answers edited) new (ih others)
    | spared default others =>
      refine .absent ?_ new (ih others)
      cases first with
      | defaulted => exact congrArg Option.some default.symm
      | optional => exact congrArg Option.some default.symm
    | missed others =>
      refine .missed ?_ new (ih others)
      cases first
      rfl

/-- **A record follows the edits of its fields.** -/
theorem Shape.follows_record {name : String} {build : β → α} {parts : α → β}
    {build_parts : ∀ a, build (parts a) = a} (h : fields.Follows (parts a) entries) :
    (Shape.record name fields build parts build_parts).Follows a (.record entries) where
  written := by
    rw [Shape.write]
    exact ⟨_, [], _, h.written, by simp, by rw [List.append_nil], rfl⟩
  begins := by
    rintro _ _ ⟨_, _, ms, _, _, _, rfl⟩
    exact begins_cons _ (by decide)
  answers := by
    rintro _ _ ⟨written, foreign, ms, kept, others, order, rfl⟩
    rw [h.names] at others
    exact record_answers (kept.shownBy h) others order

end

/-- A whole text is read as the value that it was edited from, as long as nothing is missing. -/
theorem Shape.Follows.parse {shape : Shape α} {a : α} {edits : Edits} (h : shape.Follows a edits)
    {missing : List String} {text : List Char} (edited : edits missing text) :
    (missing = [] → shape.parse (String.ofList text) = .ok a) ∧
      (missing ≠ [] → ∃ name ∈ missing,
        shape.parse (String.ofList text) = .error (.mismatch (.missingField name))) := by
  cases h.answers edited with
  | reads reads => exact ⟨fun _ => shape.parse_of_reads reads, fun some => absurd rfl some⟩
  | @refuses missing text name lacks refuses =>
    refine ⟨fun none => absurd lacks (none ▸ List.not_mem_nil), fun _ => ⟨name, lacks, ?_⟩⟩
    have read := refuses [] closed_nil
    rw [List.append_nil] at read
    rw [Shape.parse, String.toList_ofList, read]

end IngressControl.Json
