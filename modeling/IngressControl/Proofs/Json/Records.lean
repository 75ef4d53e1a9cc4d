import IngressControl.Proofs.Json.Skipping

/-!
# Records are read from their members

A record is written as an object of its fields, and read from one that has more members than these, in
any order. The reader goes through the members and gathers values (`Gathers`); what it has gathered is
told by the keys that it has seen (`Fields.gathered`), in whatever order they came. A field without a
member has the value that it has when it is absent. When it has none, it is missing, and the reader says
so, unless it has met a value before in which something else is missing (`record_answers`).
-/

namespace IngressControl.Json

variable {α β γ σ : Type}

/-! ## Readers of texts with missing fields -/

/-- A reader does not take this text, whatever follows it. -/
def Refuses (reader : Reader α) (written : List Char) (e : Problem) : Prop :=
  ∀ rest, Closed rest → reader (written ++ rest) = .error e

/-- The answer of a reader to a text in which these fields are missing: the value, when there are none,
and else that one of them is missing. -/
inductive Answers (reader : Reader α) (a : α) : (missing : List String) → List Char → Prop
  | reads {written : List Char} (reads : Reads reader written a) : Answers reader a [] written
  | refuses {missing : List String} {written : List Char} {name : String} (lacks : name ∈ missing)
      (refuses : Refuses reader written (.mismatch (.missingField name))) :
      Answers reader a missing written

theorem Answers.reads_of_nil {reader : Reader α} {a : α} {written : List Char}
    (h : Answers reader a [] written) : Reads reader written a := by
  cases h with
  | reads reads => exact reads
  | refuses lacks => cases lacks

/-! ## Values that may be absent -/

theorem reads_null (value : Reader α) : Reads (optionOf value) null none := fun _ _ => rfl

theorem optionOf_append {written : List Char} (opens : Opens written) (value : Reader α)
    (rest : List Char) :
    optionOf value (written ++ rest) =
      (value (written ++ rest)).map fun (a, cs) => (some a, cs) := by
  obtain ⟨c, cs, rfl, noSpace, noNull⟩ := opens
  rw [List.cons_append]
  unfold optionOf
  split
  · rename_i null
    rw [trimmed_cons noSpace] at null
    exact absurd (List.cons.inj null).1 noNull
  · rw [trimmed_cons noSpace]
    cases value (c :: (cs ++ rest)) <;> rfl

/-- A value that is there is answered for as it is by itself. -/
theorem Answers.some {value : Reader α} {written : List Char} {a : α} {missing : List String}
    (opens : Opens written) (h : Answers value a missing written) :
    Answers (optionOf value) (some a) missing written := by
  cases h with
  | reads reads =>
    refine .reads fun rest closed => ?_
    rw [optionOf_append opens, reads rest closed]
    rfl
  | refuses lacks refuses =>
    refine .refuses lacks fun rest closed => ?_
    rw [optionOf_append opens, refuses rest closed]
    rfl

theorem reads_some {value : Reader α} {written : List Char} {a : α} (opens : Opens written)
    (reads : Reads value written a) : Reads (optionOf value) written (some a) :=
  (Answers.some opens (.reads reads)).reads_of_nil

/-- A value that may be absent is read back. -/
theorem reads_orNull {value : Reader α} {write : α → List Char} (opens : ∀ a, Opens (write a))
    (reads : ∀ a, Reads value (write a) a) (a : Option α) :
    Reads (optionOf value) (orNull write a) a := by
  cases a with
  | none => exact reads_null value
  | some a => exact reads_some (opens a) (reads a)

/-! ## Objects -/

/-- A member takes a gathering to the next one. -/
def Takes (member : String → σ → Reader σ) (m : String × List Char) (g g' : σ) : Prop :=
  ∀ rest, Closed rest → member m.1 g (':' :: (m.2 ++ rest)) = .ok (g', rest)

/-- A member is not taken when this has been gathered. -/
def Refused (member : String → σ → Reader σ) (m : String × List Char) (g : σ) (e : Problem) : Prop :=
  ∀ rest, Closed rest → member m.1 g (':' :: (m.2 ++ rest)) = .error e

/-- What comes of members, one behind the other: what they gather, or the problem of the first one that
is not taken. -/
inductive Gathers (member : String → σ → Reader σ) :
    List (String × List Char) → σ → Except Problem σ → Prop
  | nil (g : σ) : Gathers member [] g (.ok g)
  | takes {m : String × List Char} {ms : List (String × List Char)} {g g₁ : σ}
      {result : Except Problem σ} (first : Takes member m g g₁)
      (others : Gathers member ms g₁ result) : Gathers member (m :: ms) g result
  | refused {m : String × List Char} {ms : List (String × List Char)} {g : σ} {e : Problem}
      (first : Refused member m g e) : Gathers member (m :: ms) g (.error e)

/-- The text of the members behind the first one, with the end of the object. -/
def laterMembers (ms : List (String × List Char)) (rest : List Char) : List Char :=
  ms.flatMap (fun m => ',' :: member m) ++ '}' :: rest

theorem closed_laterMembers (ms : List (String × List Char)) (rest : List Char) :
    Closed (laterMembers ms rest) := by
  cases ms with
  | nil => exact closed_cons (Or.inr (Or.inl rfl))
  | cons m ms => exact closed_cons (Or.inl rfl)

theorem separated_append (m : String × List Char) : ∀ (ms : List (String × List Char))
    (rest : List Char), separated ((m :: ms).map member) ++ '}' :: rest =
      member m ++ laterMembers ms rest := by
  intro ms
  induction ms generalizing m with
  | nil => exact fun rest => rfl
  | cons n ms ih =>
    intro rest
    have later := ih n rest
    simp only [List.map_cons, separated, List.append_assoc, List.cons_append] at later ⊢
    rw [later]
    simp [laterMembers]

theorem key_quoted (name : String) (cs : List Char) :
    key '"' (name.toList.flatMap escaped ++ '"' :: cs) = .ok (.go name cs) := by
  rw [key, if_pos rfl, string_escaped]

theorem nextKey_first (m : String × List Char) (cs : List Char) :
    nextKey true (member m ++ cs) = .ok (.go m.1 (':' :: (m.2 ++ cs))) := by
  rw [member, List.append_assoc, quoted_append, nextKey, trimmed_cons (by decide)]
  exact key_quoted m.1 _

theorem nextKey_later (m : String × List Char) (ms : List (String × List Char)) (rest : List Char) :
    nextKey false (laterMembers (m :: ms) rest) =
      .ok (.go m.1 (':' :: (m.2 ++ laterMembers ms rest))) := by
  have first : laterMembers (m :: ms) rest =
      ',' :: (quoted m.1 ++ ':' :: (m.2 ++ laterMembers ms rest)) := by
    simp [laterMembers, member]
  rw [first, nextKey, trimmed_cons (by decide), quoted_append]
  simp only [Bool.false_eq_true, if_false, if_true, Char.reduceEq]
  rw [trimmed_cons (by decide)]
  exact key_quoted m.1 _

section

variable {read : String → σ → Reader σ} {ms : List (String × List Char)} {g : σ}
  {result : Except Problem σ}

theorem members_later (gathers : Gathers read ms g result) (rest : List Char) : ∀ bound : List Char,
    ms.length < bound.length →
      members read bound false g (laterMembers ms rest) = result.map (·, rest) := by
  induction gathers with
  | nil g =>
    intro bound enough
    obtain ⟨_, bound, rfl⟩ := List.exists_cons_of_length_pos enough
    rfl
  | takes first others ih =>
    intro bound enough
    obtain ⟨_, bound, rfl⟩ := List.exists_cons_of_length_pos (Nat.zero_lt_of_lt enough)
    rw [members, nextKey_later]
    dsimp only
    rw [first _ (closed_laterMembers _ rest)]
    exact ih bound (by simpa using enough)
  | refused first =>
    intro bound enough
    obtain ⟨_, bound, rfl⟩ := List.exists_cons_of_length_pos (Nat.zero_lt_of_lt enough)
    rw [members, nextKey_later]
    dsimp only
    rw [first _ (closed_laterMembers _ rest)]
    rfl

/-- The members of an object are gathered, with the closing brace. -/
theorem members_object (gathers : Gathers read ms g result) (rest : List Char) {bound : List Char}
    (enough : ms.length < bound.length) :
    members read bound true g (separated (ms.map member) ++ '}' :: rest) = result.map (·, rest) := by
  obtain ⟨_, bound, rfl⟩ := List.exists_cons_of_length_pos (Nat.zero_lt_of_lt enough)
  cases gathers with
  | nil => rfl
  | takes first others =>
    rw [separated_append, members, nextKey_first]
    dsimp only
    rw [first _ (closed_laterMembers _ rest)]
    exact members_later others rest bound (by simpa using enough)
  | refused first =>
    rw [separated_append, members, nextKey_first]
    dsimp only
    rw [first _ (closed_laterMembers _ rest)]
    rfl

end

/-- Texts have a comma between any two. -/
theorem length_le_separated (texts : List (List Char)) :
    texts.length ≤ (separated texts).length + 1 := by
  induction texts with
  | nil => simp
  | cons text texts ih =>
    cases texts with
    | nil => simp
    | cons next texts =>
      simp only [separated, List.length_append, List.length_cons] at ih ⊢
      omega

theorem object_opens (ms : List (String × List Char)) : Opens (object ms) :=
  ⟨'{', separated (ms.map member) ++ ['}'], rfl, by decide, by decide⟩

/-! ## What has been gathered -/

/-- The names of a record's fields. -/
def Fields.names : {β γ : Type} → Fields β γ → List String
  | _, _, .nil => []
  | _, _, .cons name _ rest => name :: rest.names

/-- What is gathered of a record once members with these keys have been read. -/
def Fields.gathered : {β γ : Type} → Fields β γ → β → (keys : List String) → γ
  | _, _, .nil, _, _ => ()
  | _, _, .cons name _ rest, (a, b), keys =>
    (if name ∈ keys then some a else none, rest.gathered b keys)

theorem Fields.gathered_nil : {β γ : Type} → (fields : Fields β γ) → (b : β) →
    fields.gathered b [] = fields.start
  | _, _, .nil, _ => rfl
  | _, _, .cons _ _ rest, (_, b) => by
    rw [Fields.gathered, Fields.start, rest.gathered_nil b]
    rfl

/-- Neither the order of the keys counts, nor a key that is no field. -/
theorem Fields.gathered_congr {keys keys' : List String} : {β γ : Type} → (fields : Fields β γ) →
    (b : β) → (∀ name ∈ fields.names, name ∈ keys ↔ name ∈ keys') →
    fields.gathered b keys = fields.gathered b keys'
  | _, _, .nil, _, _ => rfl
  | _, _, .cons name _ rest, (_, b), h => by
    rw [Fields.names, List.forall_mem_cons] at h
    rw [Fields.gathered, Fields.gathered, rest.gathered_congr b h.2]
    simp only [h.1]

section

variable {name : String} {field : Field α} {others : Fields β γ} {fields : Fields β γ} {a : α} {b : β}
  {m : String × List Char} {e : Problem}

theorem Fields.gathered_foreign {key : String} (foreign : key ∉ fields.names) (b : β)
    (keys : List String) : fields.gathered b (key :: keys) = fields.gathered b keys := by
  refine fields.gathered_congr b fun name field => ?_
  have other : name ≠ key := fun same => foreign (same ▸ field)
  simp [other]

/-- The member is taken wherever it stands, as long as its field was not there before. -/
def Fields.TakesIn (fields : Fields β γ) (b : β) (m : String × List Char) : Prop :=
  ∀ keys, (m.1 ∈ fields.names → m.1 ∉ keys) →
    Takes fields.member m (fields.gathered b keys) (fields.gathered b (m.1 :: keys))

/-- The member is refused wherever it stands, also when its field was not there before. -/
def Fields.RefusesIn (fields : Fields β γ) (b : β) (m : String × List Char) (e : Problem) : Prop :=
  ∀ keys, (m.1 ∈ fields.names → m.1 ∉ keys) →
    Refused fields.member m (fields.gathered b keys) e

theorem Fields.RefusesIn.not_takesIn (h : fields.RefusesIn b m e) : ¬fields.TakesIn b m := by
  intro takes
  have taken := takes [] (by simp) [] closed_nil
  rw [h [] (by simp) [] closed_nil] at taken
  cases taken

/-- The member of the first field. -/
theorem Fields.takesIn_first {written : List Char} (new : name ∉ others.names)
    (reads : Reads field.read written a) :
    (Fields.cons name field others).TakesIn (a, b) (name, written) := by
  intro keys fresh rest closed
  have first : name ∉ keys := fresh (by simp [Fields.names])
  simp only [Fields.member, Fields.gathered, if_true, if_neg first, Option.isSome_none,
    Bool.false_eq_true, if_false, colon, trimmed_cons (show isSpace ':' = false by decide),
    reads rest closed, List.mem_cons_self, Fields.gathered_foreign new]

theorem Fields.refusesIn_first {written : List Char} (refuses : Refuses field.read written e) :
    (Fields.cons name field others).RefusesIn (a, b) (name, written) e := by
  intro keys fresh rest closed
  have first : name ∉ keys := fresh (by simp [Fields.names])
  simp only [Fields.member, Fields.gathered, if_true, if_neg first, Option.isSome_none,
    Bool.false_eq_true, if_false, colon, trimmed_cons (show isSpace ':' = false by decide),
    refuses rest closed]

/-- The members of later fields leave what was gathered of the first one. -/
theorem Fields.TakesIn.behind (other : name ≠ m.1) (h : others.TakesIn b m) :
    (Fields.cons name field others).TakesIn (a, b) m := by
  intro keys fresh rest closed
  have taken := h keys (fun later => fresh (List.mem_cons_of_mem name later)) rest closed
  simp only [Fields.member, Fields.gathered, if_false, taken, List.mem_cons, other, false_or]

theorem Fields.RefusesIn.behind (other : name ≠ m.1) (h : others.RefusesIn b m e) :
    (Fields.cons name field others).RefusesIn (a, b) m e := by
  intro keys fresh rest closed
  have refused := h keys (fun later => fresh (List.mem_cons_of_mem name later)) rest closed
  simp only [Fields.member, Fields.gathered, if_neg other, refused]

end

/-- A key that is no field leaves all that was gathered, whatever value it has. -/
theorem Fields.takesIn_foreign {m : String × List Char} (value : IsValue m.2) : {β γ : Type} →
    (fields : Fields β γ) → (b : β) → m.1 ∉ fields.names → fields.TakesIn b m
  | _, _, .nil, _, _ => by
    intro keys _ rest closed
    simp only [Fields.member, Fields.gathered, colon, trimmed_cons (show isSpace ':' = false by decide),
      if_true, skip_value value closed.numberEnds]
  | _, _, .cons name _ rest, (_, b), foreign => by
    rw [Fields.names, List.mem_cons, not_or] at foreign
    exact (rest.takesIn_foreign value b foreign.2).behind (Ne.symm foreign.1)

section

variable {fields : Fields β γ} {b : β} {P : Problem → Prop}

/-- Members that are taken or refused by themselves are gathered one behind the other, when no field is
among them twice. -/
theorem Fields.gathers_from (fields : Fields β γ) (b : β) : ∀ (ms : List (String × List Char))
    (keys : List String), (∀ m ∈ ms, fields.TakesIn b m ∨ ∃ e, P e ∧ fields.RefusesIn b m e) →
    (ms.Pairwise fun m n => m.1 = n.1 → m.1 ∉ fields.names) →
    (∀ m ∈ ms, m.1 ∈ fields.names → m.1 ∉ keys) →
    ((∀ m ∈ ms, fields.TakesIn b m) ∧ Gathers fields.member ms (fields.gathered b keys)
        (.ok (fields.gathered b (ms.map Prod.fst ++ keys)))) ∨
      ∃ e, P e ∧ Gathers fields.member ms (fields.gathered b keys) (.error e) := by
  intro ms
  induction ms with
  | nil => exact fun keys _ _ _ => Or.inl ⟨by simp, .nil _⟩
  | cons m ms ih =>
    intro keys each once fresh
    rw [List.forall_mem_cons] at each fresh
    rw [List.pairwise_cons] at once
    rcases each.1 with takes | ⟨e, problem, refuses⟩
    · have later : ∀ n ∈ ms, n.1 ∈ fields.names → n.1 ∉ m.1 :: keys := by
        intro n hn field again
        rcases List.mem_cons.mp again with same | before
        · exact once.1 n hn same.symm (same ▸ field)
        · exact fresh.2 n hn field before
      have first := takes keys fresh.1
      have order : fields.gathered b (ms.map Prod.fst ++ m.1 :: keys) =
          fields.gathered b ((m :: ms).map Prod.fst ++ keys) := by
        refine fields.gathered_congr b fun name _ => ?_
        simp only [List.map_cons, List.mem_append, List.mem_cons]
        tauto
      rcases ih (m.1 :: keys) each.2 once.2 later with ⟨all, gathers⟩ | ⟨e, problem, gathers⟩
      · rw [order] at gathers
        exact Or.inl ⟨List.forall_mem_cons.mpr ⟨takes, all⟩, .takes first gathers⟩
      · exact Or.inr ⟨e, problem, .takes first gathers⟩
    · exact Or.inr ⟨e, problem, .refused (refuses keys fresh.1)⟩

theorem Fields.gathers {ms : List (String × List Char)}
    (each : ∀ m ∈ ms, fields.TakesIn b m ∨ ∃ e, P e ∧ fields.RefusesIn b m e)
    (once : ms.Pairwise fun m n => m.1 = n.1 → m.1 ∉ fields.names) :
    ((∀ m ∈ ms, fields.TakesIn b m) ∧ Gathers fields.member ms fields.start
        (.ok (fields.gathered b (ms.map Prod.fst)))) ∨
      ∃ e, P e ∧ Gathers fields.member ms fields.start (.error e) := by
  have course := fields.gathers_from b ms [] each once (by simp)
  rwa [List.append_nil, fields.gathered_nil b] at course

end

/-! ## Records -/

/-- Members show the fields of a record: each answers for the value of its field. A field without a
member has the value that it has when it is absent, or it is missing. -/
inductive Fields.ShownBy : {β γ : Type} → Fields β γ → β → (missing : List String) →
    List (String × List Char) → Prop
  | nil : Fields.nil.ShownBy () [] []
  | present {α β γ : Type} {name : String} {field : Field α} {others : Fields β γ} {a : α} {b : β}
      {lost missing : List String} {written : List Char} {ms : List (String × List Char)}
      (answers : Answers field.read a lost written) (new : name ∉ others.names)
      (rest : others.ShownBy b missing ms) :
      (Fields.cons name field others).ShownBy (a, b) (lost ++ missing) ((name, written) :: ms)
  | absent {α β γ : Type} {name : String} {field : Field α} {others : Fields β γ} {a : α} {b : β}
      {missing : List String} {ms : List (String × List Char)} (absent : field.absent? = some a)
      (new : name ∉ others.names) (rest : others.ShownBy b missing ms) :
      (Fields.cons name field others).ShownBy (a, b) missing ms
  | missed {α β γ : Type} {name : String} {field : Field α} {others : Fields β γ} {a : α} {b : β}
      {missing : List String} {ms : List (String × List Char)} (needed : field.absent? = none)
      (new : name ∉ others.names) (rest : others.ShownBy b missing ms) :
      (Fields.cons name field others).ShownBy (a, b) (name :: missing) ms

/-- The problem is that one of these fields is missing. -/
def IsMissing (missing : List String) (e : Problem) : Prop :=
  ∃ name ∈ missing, e = .mismatch (.missingField name)

theorem IsMissing.mono {missing missing' : List String} {e : Problem} (subset : missing ⊆ missing')
    (h : IsMissing missing e) : IsMissing missing' e := by
  obtain ⟨name, lacks, rfl⟩ := h
  exact ⟨name, subset lacks, rfl⟩

namespace Fields.ShownBy

variable {fields : Fields β γ} {b : β} {missing : List String} {ms : List (String × List Char)}

theorem shows {name : String} {field : Field α} {a : α} {written : List Char}
    (reads : Reads field.read written a) (new : name ∉ fields.names)
    (rest : fields.ShownBy b missing ms) :
    (Fields.cons name field fields).ShownBy (a, b) missing ((name, written) :: ms) :=
  .present (.reads reads) new rest

theorem isField (h : fields.ShownBy b missing ms) : ∀ m ∈ ms, m.1 ∈ fields.names := by
  induction h with
  | nil => simp
  | present _ _ _ ih =>
    exact List.forall_mem_cons.mpr
      ⟨List.mem_cons_self, fun m hm => List.mem_cons_of_mem _ (ih m hm)⟩
  | absent _ _ _ ih => exact fun m hm => List.mem_cons_of_mem _ (ih m hm)
  | missed _ _ _ ih => exact fun m hm => List.mem_cons_of_mem _ (ih m hm)

theorem isOther {name : String} (new : name ∉ fields.names) (rest : fields.ShownBy b missing ms)
    {m : String × List Char} (hm : m ∈ ms) : name ≠ m.1 :=
  fun same => new (same ▸ rest.isField m hm)

theorem once (h : fields.ShownBy b missing ms) : ms.Pairwise fun m n => m.1 ≠ n.1 := by
  induction h with
  | nil => exact .nil
  | present _ new rest ih => exact .cons (fun _ => isOther new rest) ih
  | absent _ _ _ ih => exact ih
  | missed _ _ _ ih => exact ih

section

variable {name : String} {field : Field α} {a : α}

/-- What holds of the members of later fields, whatever else is missing. -/
theorem each_behind {all : List String} (new : name ∉ fields.names)
    (rest : fields.ShownBy b missing ms) (subset : missing ⊆ all)
    (each : ∀ m ∈ ms, fields.TakesIn b m ∨ ∃ e, IsMissing missing e ∧ fields.RefusesIn b m e) :
    ∀ m ∈ ms, (Fields.cons name field fields).TakesIn (a, b) m ∨
      ∃ e, IsMissing all e ∧ (Fields.cons name field fields).RefusesIn (a, b) m e := by
  intro m hm
  have other := isOther new rest hm
  rcases each m hm with takes | ⟨e, missed, refuses⟩
  · exact Or.inl (takes.behind other)
  · exact Or.inr ⟨e, missed.mono subset, refuses.behind other⟩

theorem refused_behind (new : name ∉ fields.names) (rest : fields.ShownBy b missing ms)
    (refused : ∃ m ∈ ms, ∃ e, fields.RefusesIn b m e) :
    ∃ m ∈ ms, ∃ e, (Fields.cons name field fields).RefusesIn (a, b) m e := by
  obtain ⟨m, hm, e, refuses⟩ := refused
  exact ⟨m, hm, e, refuses.behind (isOther new rest hm)⟩

end

/-- Each member is taken, or something is missing in it. -/
theorem each (h : fields.ShownBy b missing ms) :
    ∀ m ∈ ms, fields.TakesIn b m ∨ ∃ e, IsMissing missing e ∧ fields.RefusesIn b m e := by
  induction h with
  | nil => simp
  | present answers new rest ih =>
    refine List.forall_mem_cons.mpr ⟨?_, each_behind new rest (List.subset_append_right _ _) ih⟩
    cases answers with
    | reads reads => exact Or.inl (Fields.takesIn_first new reads)
    | refuses lacks refuses =>
      exact Or.inr ⟨_, ⟨_, List.mem_append_left _ lacks, rfl⟩, Fields.refusesIn_first refuses⟩
  | absent _ new rest ih => exact each_behind new rest (List.Subset.refl _) ih
  | missed _ new rest ih => exact each_behind new rest (List.subset_cons_self _ _) ih

/-- When no member is refused, the record ends with its value, or with a field that is missing. -/
theorem finish (h : fields.ShownBy b missing ms) :
    (∃ m ∈ ms, ∃ e, fields.RefusesIn b m e) ∨
      ∀ keys, (∀ name ∈ fields.names, name ∈ keys ↔ name ∈ ms.map Prod.fst) →
        (missing = [] ∧ fields.finish (fields.gathered b keys) = .ok b) ∨
          ∃ e, IsMissing missing e ∧ fields.finish (fields.gathered b keys) = .error e := by
  induction h with
  | nil => exact Or.inr fun keys _ => Or.inl ⟨rfl, rfl⟩
  | @present α β γ name field others a b lost missing written ms answers new rest ih =>
    cases answers with
    | refuses lacks refuses =>
      exact Or.inl ⟨_, List.mem_cons_self, _, Fields.refusesIn_first refuses⟩
    | reads reads =>
      rcases ih with refused | ends
      · obtain ⟨m, hm, refuses⟩ := refused_behind new rest refused
        exact Or.inl ⟨m, List.mem_cons_of_mem _ hm, refuses⟩
      refine Or.inr fun keys seen => ?_
      rw [Fields.names, List.forall_mem_cons] at seen
      have here : name ∈ keys := seen.1.mpr (by simp)
      have later : ∀ other ∈ others.names, other ∈ keys ↔ other ∈ ms.map Prod.fst := by
        intro other field
        have apart : other ≠ name := fun same => new (same ▸ field)
        simpa [apart] using seen.2 other field
      rw [List.nil_append]
      rcases ends keys later with ⟨none, value⟩ | ⟨e, missed, error⟩
      · exact Or.inl ⟨none, by simp [Fields.finish, Fields.gathered, here, value]⟩
      · exact Or.inr ⟨e, missed, by simp [Fields.finish, Fields.gathered, here, error]⟩
  | @absent α β γ name field others a b missing ms absent new rest ih =>
    rcases ih with refused | ends
    · exact Or.inl (refused_behind new rest refused)
    refine Or.inr fun keys seen => ?_
    rw [Fields.names, List.forall_mem_cons] at seen
    have here : ((if name ∈ keys then some a else none) <|> field.absent?) = some a := by
      split
      · rfl
      · simpa using absent
    rcases ends keys seen.2 with ⟨none, value⟩ | ⟨e, missed, error⟩
    · exact Or.inl ⟨none, by simp only [Fields.finish, Fields.gathered, here, value]⟩
    · exact Or.inr ⟨e, missed, by simp only [Fields.finish, Fields.gathered, here, error]⟩
  | @missed α β γ name field others a b missing ms needed new rest ih =>
    refine Or.inr fun keys seen => Or.inr ⟨_, ⟨name, List.mem_cons_self, rfl⟩, ?_⟩
    rw [Fields.names, List.forall_mem_cons] at seen
    have here : name ∉ keys := by
      intro there
      obtain ⟨m, hm, same⟩ := List.mem_map.mp (seen.1.mp there)
      exact isOther new rest hm same.symm
    simp [Fields.finish, Fields.gathered, here, needed]

end Fields.ShownBy

section

variable {name : String} {fields : Fields β γ} {build : β → α} {parts : α → β}
  {build_parts : ∀ a, build (parts a) = a} {a : α} {ms : List (String × List Char)}

/-- A record ends like its members. -/
theorem record_append {result : Except Problem γ}
    (gathers : Gathers fields.member ms fields.start result) (rest : List Char) :
    (Shape.record name fields build parts build_parts).read (object ms ++ rest) =
      (result.bind fields.finish).map fun b => (build b, rest) := by
  have enough : ms.length < ('{' :: (separated (ms.map member) ++ '}' :: rest)).length := by
    have written := length_le_separated (ms.map member)
    rw [List.length_map] at written
    rw [List.length_cons, List.length_append, List.length_cons]
    omega
  have text : object ms ++ rest = '{' :: (separated (ms.map member) ++ '}' :: rest) := by
    simp [object]
  rw [text, Shape.read]
  simp only [recordOf, trimmed_cons (show isSpace '{' = false by decide),
    members_object gathers rest enough]
  cases result with
  | error e => rfl
  | ok g =>
    simp only [Except.map, Except.bind]
    cases fields.finish g <;> rfl

/-- **A record is read** from any object that has the members that show its fields, and others that are
none of them. It does not matter in which order they stand, nor what the values of the others are. -/
theorem record_answers {missing : List String} {written foreign : List (String × List Char)}
    (shown : fields.ShownBy (parts a) missing written)
    (others : ∀ m ∈ foreign, m.1 ∉ fields.names ∧ IsValue m.2) (order : ms.Perm (written ++ foreign)) :
    Answers (Shape.record name fields build parts build_parts).read a missing (object ms) := by
  have each : ∀ m ∈ ms, fields.TakesIn (parts a) m ∨
      ∃ e, IsMissing missing e ∧ fields.RefusesIn (parts a) m e := by
    intro m hm
    rcases List.mem_append.mp (order.mem_iff.mp hm) with own | other
    · exact shown.each m own
    · exact Or.inl (fields.takesIn_foreign (others m other).2 (parts a) (others m other).1)
  have once : ms.Pairwise fun m n => m.1 = n.1 → m.1 ∉ fields.names := by
    refine (order.pairwise_iff fun {m n} h same => same ▸ h same.symm).mpr ?_
    refine List.pairwise_append.mpr ⟨?_, ?_, fun m _ n hn same => same ▸ (others n hn).1⟩
    · exact shown.once.imp fun different same => absurd same different
    · exact List.pairwise_of_forall_mem_list fun m hm n _ _ => (others m hm).1
  have seen : ∀ name ∈ fields.names, name ∈ ms.map Prod.fst ↔ name ∈ written.map Prod.fst := by
    intro name field
    rw [(order.map Prod.fst).mem_iff, List.map_append, List.mem_append, or_iff_left]
    intro other
    obtain ⟨m, hm, rfl⟩ := List.mem_map.mp other
    exact (others m hm).1 field
  have refused : ∀ {e : Problem}, IsMissing missing e →
      (∀ rest, (Shape.record name fields build parts build_parts).read (object ms ++ rest) = .error e) →
      Answers (Shape.record name fields build parts build_parts).read a missing (object ms) := by
    rintro e ⟨name, lacks, rfl⟩ error
    exact .refuses lacks fun rest _ => error rest
  rcases Fields.gathers each once with ⟨takes, gathers⟩ | ⟨e, missed, gathers⟩
  · rcases shown.finish with ⟨m, hm, e, refuses⟩ | ends
    · exact absurd (takes m (order.mem_iff.mpr (List.mem_append_left _ hm))) refuses.not_takesIn
    rcases ends _ seen with ⟨rfl, value⟩ | ⟨e, missed, error⟩
    · refine .reads fun rest _ => ?_
      rw [record_append gathers rest, Except.bind, value, Except.map, build_parts]
    · refine refused missed fun rest => ?_
      rw [record_append gathers rest, Except.bind, error, Except.map]
  · refine refused missed fun rest => ?_
    rw [record_append gathers rest]
    rfl

/-- A record is read back from the members that show its fields. -/
theorem reads_record (shown : fields.ShownBy (parts a) [] ms) :
    Reads (Shape.record name fields build parts build_parts).read (object ms) a := by
  have order : ms.Perm (ms ++ []) := by rw [List.append_nil]
  exact (record_answers shown (by simp) order).reads_of_nil

end

/-- A whole text is read as the value that it was written for. -/
theorem Shape.parse_of_reads {shape : Shape α} {written : List Char} {a : α}
    (reads : Reads shape.read written a) : shape.parse (String.ofList written) = .ok a := by
  have read := reads [] closed_nil
  rw [List.append_nil] at read
  rw [Shape.parse, String.toList_ofList, read]
  rfl

end IngressControl.Json
