import IngressControl.Proofs.Json.Records

/-!
# What a shape writes, it reads

A shape is used in two directions, by two programs that know nothing of each other: the writer puts the
fields of a record in order and leaves out what is absent, the reader takes them in any order and fills
in what is missing. For a *sound* shape the reader undoes the writer, whatever stands behind the text
(`Shape.reads_write`). Sound shapes are those that hold no integer beyond 64 bits and give no two fields
of one record the same name.

The proof is one induction over the shape, with a case for each kind of value. A record is read back
because its members show its fields (`Fields.shownBy_write`): a field that was written is present, and
one that was left out is absent and optional.
-/

namespace IngressControl

/-- All integers of the range have 64 bits: signed, when they are negative, and else unsigned. -/
def IntegerRange.Fits {α : Type} (range : IntegerRange α) : Prop :=
  ∀ a, -0x8000000000000000 ≤ range.toInt a ∧ range.toInt a < 0x10000000000000000

namespace IntegerRange

theorem int64_fits : int64.Fits := by
  intro a
  have low := Int64.le_toInt a
  have high := Int64.toInt_lt a
  simp only [int64]
  omega

theorem uint16_fits : uint16.Fits := by
  intro a
  have high := a.toNat_lt
  simp only [uint16]
  omega

theorem uint32_fits : uint32.Fits := by
  intro a
  have high := a.toNat_lt
  simp only [uint32]
  omega

end IntegerRange

namespace Json

variable {α : Type}

/-! ## Sound shapes -/

mutual

/-- A shape whose values are told by their text. -/
def Shape.Sound : {α : Type} → Shape α → Prop
  | _, .integer range => range.Fits
  | _, .flag => True
  | _, .text => True
  | _, .list item => item.Sound
  | _, .record _ fields _ _ _ => fields.Sound

def Field.Sound : {α : Type} → Field α → Prop
  | _, .required value => value.Sound
  | _, .defaulted _ value => value.Sound
  | _, .optional value => value.Sound

def Fields.Sound : {β γ : Type} → Fields β γ → Prop
  | _, _, .nil => True
  | _, _, .cons name field rest => name ∉ rest.names ∧ field.Sound ∧ rest.Sound

end

/-! ## How values begin -/

theorem Shape.write_begins (shape : Shape α) (a : α) : Begins (shape.write a) := by
  cases shape with
  | integer range =>
    rw [Shape.write]
    exact ofInt_begins (range.toInt a)
  | flag =>
    rw [Shape.write]
    cases a <;> exact begins_cons _ (by decide)
  | text =>
    rw [Shape.write]
    exact begins_cons _ (by decide)
  | list item =>
    rw [Shape.write]
    exact begins_cons _ (by decide)
  | record name fields build parts build_parts =>
    rw [Shape.write]
    exact begins_cons _ (by decide)

/-! ## Lists -/

section

variable {item : Reader α} {texts : List (List Char)} {result : Except Problem (List α)}

/-- The text of the elements behind the first one, with the end of the list. -/
def laterElements (texts : List (List Char)) (rest : List Char) : List Char :=
  texts.flatMap (fun text => ',' :: text) ++ ']' :: rest

theorem closed_laterElements (texts : List (List Char)) (rest : List Char) :
    Closed (laterElements texts rest) := by
  cases texts with
  | nil => exact closed_cons (Or.inr (Or.inr rfl))
  | cons text texts => exact closed_cons (Or.inl rfl)

theorem separated_elements (text : List Char) : ∀ (texts : List (List Char)) (rest : List Char),
    separated (text :: texts) ++ ']' :: rest = text ++ laterElements texts rest := by
  intro texts
  induction texts generalizing text with
  | nil => exact fun rest => rfl
  | cons next texts ih =>
    intro rest
    simp only [separated, List.append_assoc, List.cons_append]
    rw [ih next rest]
    simp [laterElements]

theorem nextElement_first {written : List Char} (begins : Begins written) (cs : List Char) :
    nextElement true (written ++ cs) = .ok (.go () (written ++ cs)) := by
  obtain ⟨_, c, written, rfl, noSpace, notClosing⟩ := begins.opens
  rw [List.cons_append, nextElement, trimmed_cons noSpace]
  simp [notClosing]

theorem nextElement_later {written : List Char} (begins : Begins written) (texts : List (List Char))
    (rest : List Char) : nextElement false (laterElements (written :: texts) rest) =
      .ok (.go () (written ++ laterElements texts rest)) := by
  have comma : laterElements (written :: texts) rest =
      ',' :: (written ++ laterElements texts rest) := by
    simp [laterElements]
  obtain ⟨_, c, written, rfl, noSpace, notClosing⟩ := begins.opens
  rw [comma, List.cons_append, nextElement, trimmed_cons (by decide)]
  simp [trimmed_cons noSpace, notClosing]

/-- What comes of the elements of a list: their values, or the problem of the first one that is not
taken. -/
inductive Collects (item : Reader α) : List (List Char) → Except Problem (List α) → Prop
  | nil : Collects item [] (.ok [])
  | takes {a : α} {text : List Char} {texts : List (List Char)} {result : Except Problem (List α)}
      (begins : Begins text) (reads : Reads item text a) (others : Collects item texts result) :
      Collects item (text :: texts) (result.map (a :: ·))
  | refused {e : Problem} {text : List Char} {texts : List (List Char)} (begins : Begins text)
      (refuses : Refuses item text e) : Collects item (text :: texts) (.error e)

theorem elements_later (collects : Collects item texts result) (rest : List Char) :
    ∀ (bound : List Char) (taken : List α), taken ≠ [] → texts.length < bound.length →
      elements item bound taken (laterElements texts rest) =
        result.map fun as => (taken.reverse ++ as, rest) := by
  induction collects with
  | nil =>
    intro bound taken some enough
    obtain ⟨_, bound, rfl⟩ := List.exists_cons_of_length_pos enough
    have fresh : taken.isEmpty = false := by simpa using some
    rw [elements, fresh, Except.map, List.append_nil]
    rfl
  | @takes a text texts result begins reads others ih =>
    intro bound taken some enough
    obtain ⟨_, bound, rfl⟩ := List.exists_cons_of_length_pos (Nat.zero_lt_of_lt enough)
    have fresh : taken.isEmpty = false := by simpa using some
    rw [elements, fresh, nextElement_later begins]
    dsimp only
    rw [reads _ (closed_laterElements texts rest)]
    have later := ih bound (a :: taken) (by simp) (by simpa using enough)
    dsimp only
    rw [later]
    cases result <;> simp [Except.map]
  | refused begins refuses =>
    intro bound taken some enough
    obtain ⟨_, bound, rfl⟩ := List.exists_cons_of_length_pos (Nat.zero_lt_of_lt enough)
    have fresh : taken.isEmpty = false := by simpa using some
    rw [elements, fresh, nextElement_later begins]
    dsimp only
    rw [refuses _ (closed_laterElements _ rest)]
    rfl

/-- A list ends like its elements. -/
theorem list_append (collects : Collects item texts result) (rest : List Char) :
    listOf item (list texts ++ rest) = result.map (·, rest) := by
  have text : list texts ++ rest = '[' :: (separated texts ++ ']' :: rest) := by
    simp [list]
  rw [text, listOf, trimmed_cons (by decide)]
  change elements item ('[' :: (separated texts ++ ']' :: rest)) [] _ = _
  have enough : texts.length < (separated texts ++ ']' :: rest).length + 1 := by
    have commas := length_le_separated texts
    rw [List.length_append, List.length_cons]
    omega
  cases collects with
  | nil => rfl
  | @takes a text texts result begins reads others =>
    rw [elements, List.isEmpty_nil]
    rw [separated_elements] at enough ⊢
    rw [nextElement_first begins]
    dsimp only
    rw [reads _ (closed_laterElements texts rest)]
    have later := elements_later others rest _ [a] (by simp) (Nat.lt_of_succ_lt_succ enough)
    dsimp only
    rw [later]
    cases result <;> rfl
  | refused begins refuses =>
    rw [elements, List.isEmpty_nil, separated_elements, nextElement_first begins]
    dsimp only
    rw [refuses _ (closed_laterElements _ rest)]
    rfl

/-- Texts show the elements of a list: each answers for one of them. -/
inductive ShownIn (item : Reader α) : List α → (missing : List String) → List (List Char) → Prop
  | nil : ShownIn item [] [] []
  | cons {a : α} {as : List α} {lost missing : List String} {text : List Char}
      {texts : List (List Char)} (begins : Begins text) (answers : Answers item a lost text)
      (others : ShownIn item as missing texts) :
      ShownIn item (a :: as) (lost ++ missing) (text :: texts)

theorem ShownIn.collects {as : List α} {missing : List String} (h : ShownIn item as missing texts) :
    (missing = [] ∧ Collects item texts (.ok as)) ∨
      ∃ e, IsMissing missing e ∧ Collects item texts (.error e) := by
  induction h with
  | nil => exact Or.inl ⟨rfl, .nil⟩
  | cons begins answers others ih =>
    cases answers with
    | refuses lacks refuses =>
      exact Or.inr ⟨_, ⟨_, List.mem_append_left _ lacks, rfl⟩, .refused begins refuses⟩
    | reads reads =>
      rcases ih with ⟨none, collects⟩ | ⟨e, missed, collects⟩
      · exact Or.inl ⟨none, .takes begins reads collects⟩
      · exact Or.inr ⟨e, missed, .takes begins reads collects⟩

/-- **A list is read** from the texts that show its elements. -/
theorem list_answers {as : List α} {missing : List String} (shown : ShownIn item as missing texts) :
    Answers (listOf item) as missing (list texts) := by
  rcases shown.collects with ⟨rfl, collects⟩ | ⟨_, ⟨name, lacks, rfl⟩, collects⟩
  · exact .reads fun rest _ => list_append collects rest
  · exact .refuses lacks fun rest _ => list_append collects rest

theorem reads_list {write : α → List Char} (begins : ∀ a, Begins (write a))
    (reads : ∀ a, Reads item (write a) a) (as : List α) :
    Reads (listOf item) (list (as.map write)) as := by
  have shown : ShownIn item as [] (as.map write) := by
    induction as with
    | nil => exact .nil
    | cons a as ih => exact .cons (begins a) (.reads (reads a)) ih
  exact (list_answers shown).reads_of_nil

end

/-! ## All shapes -/

mutual

/-- **What a sound shape writes, it reads**, whatever stands behind it. -/
theorem Shape.reads_write : {α : Type} → (shape : Shape α) → shape.Sound → (a : α) →
    Reads shape.read (shape.write a) a
  | _, .integer range, sound, a => by
    rw [Shape.read, Shape.write]
    exact reads_integer range (sound a).1 (sound a).2
  | _, .flag, _, b => by
    rw [Shape.read, Shape.write]
    exact reads_flag b
  | _, .text, _, s => by
    rw [Shape.read, Shape.write]
    exact reads_text s
  | _, .list item, sound, as => by
    rw [Shape.read, Shape.write]
    exact reads_list item.write_begins (item.reads_write sound) as
  | _, .record name fields build parts build_parts, sound, a => by
    rw [Shape.write]
    exact reads_record (fields.shownBy_write sound (parts a))

/-- The value of a field is read back, or it was left out and is that of a field that is absent. -/
theorem Field.reads_write : {α : Type} → (field : Field α) → field.Sound → (a : α) →
    (∃ written, field.write? a = some written ∧ Reads field.read written a) ∨
      (field.write? a = none ∧ field.absent? = some a)
  | _, .required value, sound, a => Or.inl ⟨_, rfl, value.reads_write sound a⟩
  | _, .defaulted _ value, sound, a => Or.inl ⟨_, rfl, value.reads_write sound a⟩
  | _, .optional _, _, none => Or.inr ⟨rfl, rfl⟩
  | _, .optional value, sound, some a =>
    Or.inl ⟨_, rfl, reads_some (value.write_begins a).opens.1 (value.reads_write sound a)⟩

theorem Fields.shownBy_write : {β γ : Type} → (fields : Fields β γ) → fields.Sound → (b : β) →
    fields.ShownBy b [] (fields.write b)
  | _, _, .nil, _, _ => .nil
  | _, _, .cons name field rest, sound, (a, b) => by
    rw [Fields.Sound] at sound
    obtain ⟨new, value, others⟩ := sound
    rw [Fields.write]
    rcases field.reads_write value a with ⟨written, present, reads⟩ | ⟨left, absent⟩
    · rw [present]
      exact .shows reads new (rest.shownBy_write others b)
    · rw [left]
      exact .absent absent new (rest.shownBy_write others b)

end

/-- The whole text of a value is read back. -/
theorem Shape.parse_of_sound (shape : Shape α) (sound : shape.Sound) (a : α) :
    shape.parse (shape.render a) = .ok a :=
  Shape.parse_of_reads (shape.reads_write sound a)

/-- So no two values have the same text. -/
theorem Shape.render_injective (shape : Shape α) (sound : shape.Sound) {a b : α}
    (h : shape.render a = shape.render b) : a = b := by
  have read := shape.parse_of_sound sound a
  rw [h, shape.parse_of_sound sound b] at read
  exact (Except.ok.inj read).symm

end Json

end IngressControl
