import IngressControl.Json.Skip
import IngressControl.Proofs.Json.Scalars

/-!
# Whatever is a JSON value is skipped

A record is read without regard to the keys that it has no field for, so whatever value such a key has
must be passed over, up to its last character and no further. Which texts are values is said here by the
grammar of RFC 8259, without a reader (`Written`). The skipping goes over the text in moves, and a value
of so many characters takes at most twice as many of them (`Written.skips`); there is no bound on how
deep it is nested, on its numbers, or on what its escapes stand for.
-/

namespace IngressControl.Json

/-! ## Values -/

/-- Any run of white space. -/
def Spaces (cs : List Char) : Prop := ∀ c ∈ cs, isSpace c = true

/-- Any run of digits. -/
def Digits (ds : List Char) : Prop := ∀ d ∈ ds, d.isDigit = true

/-- The whole part of a number: one zero, or digits that do not begin with one. -/
inductive IsWhole : List Char → Prop
  | zero : IsWhole ['0']
  | positive {d : Char} {ds : List Char} (first : d.isDigit = true) (nonzero : d ≠ '0')
      (digits : Digits ds) : IsWhole (d :: ds)

/-- The fraction of a number, which may be missing. -/
inductive IsFraction : List Char → Prop
  | none : IsFraction []
  | some {ds : List Char} (some : ds ≠ []) (digits : Digits ds) : IsFraction ('.' :: ds)

/-- The exponent of a number, which may be missing. -/
inductive IsExponent : List Char → Prop
  | none : IsExponent []
  | some {e : Char} {sign ds : List Char} (letter : e = 'e' ∨ e = 'E')
      (signed : sign = [] ∨ sign = ['+'] ∨ sign = ['-']) (some : ds ≠ []) (digits : Digits ds) :
      IsExponent (e :: (sign ++ ds))

inductive IsNumber : List Char → Prop
  | parts {sign whole fraction exponent : List Char} (signed : sign = [] ∨ sign = ['-'])
      (isWhole : IsWhole whole) (isFraction : IsFraction fraction)
      (isExponent : IsExponent exponent) : IsNumber (sign ++ (whole ++ (fraction ++ exponent)))

/-- What stands for one character or surrogate in a string. -/
inductive IsCharacter : List Char → Prop
  | plain {c : Char} (noQuote : c ≠ '"') (noBackslash : c ≠ '\\') (high : ¬c.toNat < 0x20) :
      IsCharacter [c]
  | named {c : Char} (name : c ∈ ['"', '\\', '/', 'b', 'f', 'n', 'r', 't']) : IsCharacter ['\\', c]
  | numbered {ds : List Char} (four : ds.length = 4) (hex : ∀ d ∈ ds, (Hex.value? d).isSome = true) :
      IsCharacter ('\\' :: 'u' :: ds)

/-- The rest of a string, behind its opening quote. -/
inductive IsStringRest : List Char → Prop
  | close : IsStringRest ['"']
  | character {cs rest : List Char} (isCharacter : IsCharacter cs) (later : IsStringRest rest) :
      IsStringRest (cs ++ rest)

/-- The bracket that a list or an object begins with. -/
def Bracket.opening : Bracket → Char
  | .list => '['
  | .object => '\x7b'

/-- The bracket that a list or an object ends with. -/
def Bracket.closing : Bracket → Char
  | .list => ']'
  | .object => '\x7d'

/-- What stands in front of a value inside a bracket: white space, in an object behind a key with its
colon. -/
inductive IsFront : Bracket → List Char → Prop
  | list {ws : List Char} (spaces : Spaces ws) : IsFront .list ws
  | object {before key between behind : List Char} (spacesBefore : Spaces before)
      (isKey : IsStringRest key) (spacesBetween : Spaces between) (spacesBehind : Spaces behind) :
      IsFront .object (before ++ '"' :: (key ++ (between ++ ':' :: behind)))

/-- What of a JSON text is meant: a value, or all that stands inside a bracket, unless that is empty. -/
inductive Phrase where
  | value
  | inside (bracket : Bracket)

/-- The grammar of JSON. -/
inductive Written : Phrase → List Char → Prop
  | null : Written .value null
  | boolean (b : Bool) : Written .value (boolean b)
  | number {cs : List Char} (isNumber : IsNumber cs) : Written .value cs
  | string {cs : List Char} (isString : IsStringRest cs) : Written .value ('"' :: cs)
  | empty (bracket : Bracket) {ws : List Char} (spaces : Spaces ws) :
      Written .value (bracket.opening :: (ws ++ [bracket.closing]))
  | nested (bracket : Bracket) {cs : List Char} (inside : Written (.inside bracket) cs) :
      Written .value (bracket.opening :: (cs ++ [bracket.closing]))
  | last {bracket : Bracket} {front v ws : List Char} (isFront : IsFront bracket front)
      (value : Written .value v) (spaces : Spaces ws) : Written (.inside bracket) (front ++ (v ++ ws))
  | more {bracket : Bracket} {front v ws cs : List Char} (isFront : IsFront bracket front)
      (value : Written .value v) (spaces : Spaces ws) (later : Written (.inside bracket) cs) :
      Written (.inside bracket) (front ++ (v ++ (ws ++ ',' :: cs)))

/-- The text is a JSON value. -/
abbrev IsValue (cs : List Char) : Prop := Written .value cs

/-! ## White space -/

section

variable {ws cs rest : List Char}

theorem spaces_nil : Spaces [] := by simp [Spaces]

theorem trimmed_spaces (spaces : Spaces ws) (cs : List Char) : trimmed (ws ++ cs) = trimmed cs :=
  List.dropWhile_append_of_pos spaces

theorem NumberEnds.spaces (spaces : Spaces ws) (ends : NumberEnds rest) : NumberEnds (ws ++ rest) := by
  cases ws with
  | nil => exact ends
  | cons c ws =>
    have space : isSpace c = true := spaces c (by simp)
    simp only [isSpace, Bool.or_eq_true, decide_eq_true_eq] at space
    have first : ∀ d ∈ (c :: ws ++ rest).head?, d = c := fun d hd => (Option.some.inj hd).symm
    refine ⟨fun d hd => ?_, fun d hd => ?_, fun d hd => ?_⟩ <;> rw [first d hd] <;>
      rcases space with ((rfl | rfl) | rfl) | rfl <;> decide

theorem colon_spaces (spaces : Spaces ws) (rest : List Char) :
    colon (ws ++ ':' :: rest) = .ok rest := by
  rw [colon, trimmed_spaces spaces, trimmed_cons (by decide)]
  rfl

end

/-! ## Numbers -/

section

variable {ds cs rest : List Char}

theorem IsWhole.digits (h : IsWhole cs) : Digits cs ∧ cs ≠ [] := by
  cases h with
  | zero => exact ⟨List.forall_mem_singleton.mpr (by decide), by simp⟩
  | positive first nonzero digits => exact ⟨List.forall_mem_cons.mpr ⟨first, digits⟩, by simp⟩

theorem IsWhole.taken (h : IsWhole cs) (ends : ∀ c ∈ rest.head?, c.isDigit = false) :
    wholeDigits (cs ++ rest) = .ok (cs, rest) := by
  have taken := digits_append h.digits.1 ends
  cases h with
  | zero =>
    rw [List.singleton_append] at taken ⊢
    rw [wholeDigits, taken]
    rfl
  | @positive d ds first nonzero digits =>
    rw [List.cons_append] at taken ⊢
    rw [wholeDigits, taken]
    simp [nonzero]

theorem IsFraction.taken (h : IsFraction cs) (ends : ∀ c ∈ rest.head?, c.isDigit = false)
    (point : ∀ c ∈ rest.head?, c ≠ '.') :
    ∃ fraction, fractionDigits (cs ++ rest) = .ok (fraction, rest) := by
  cases h with
  | none => exact ⟨[], fractionDigits_of_ends point⟩
  | @some ds some all =>
    obtain ⟨d, ds, rfl⟩ := List.exists_cons_of_ne_nil some
    refine ⟨d :: ds, ?_⟩
    have taken := digits_append all ends
    rw [List.cons_append] at taken
    simp only [List.cons_append, fractionDigits, taken]

theorem IsExponent.taken (h : IsExponent cs) (ends : NumberEnds rest) :
    ∃ power, exponent (cs ++ rest) = .ok (power, rest) := by
  cases h with
  | none => exact ⟨_, exponent_of_ends ends⟩
  | @some e sign ds letter signed some all =>
    obtain ⟨d, ds, rfl⟩ := List.exists_cons_of_ne_nil some
    have taken := digits_append all ends.digit
    rw [List.cons_append] at taken
    have noSign : d ≠ '+' ∧ d ≠ '-' := by
      have first : d.isDigit = true := all d (by simp)
      constructor <;>
      · rintro rfl
        exact absurd first (by decide)
    rcases signed with rfl | rfl | rfl
    · simp [exponent, letter, noSign, taken]
    · simp [exponent, letter, taken]
    · simp [exponent, letter, taken]

/-- A fraction or an exponent does not begin with a digit. -/
theorem IsFraction.ends (h : IsFraction cs) (ends : ∀ c ∈ rest.head?, c.isDigit = false) :
    ∀ c ∈ (cs ++ rest).head?, c.isDigit = false := by
  cases h with
  | none => exact ends
  | some => simp

theorem IsExponent.ends (h : IsExponent cs) (ends : NumberEnds rest) :
    (∀ c ∈ (cs ++ rest).head?, c.isDigit = false) ∧ ∀ c ∈ (cs ++ rest).head?, c ≠ '.' := by
  cases h with
  | none => exact ⟨ends.digit, ends.point⟩
  | some letter =>
    rcases letter with rfl | rfl <;> simp

/-- A number is skipped up to its end. -/
theorem IsNumber.skipped (h : IsNumber cs) (ends : NumberEnds rest) :
    skipNumber (cs ++ rest) = .ok rest := by
  obtain @⟨sign, whole, fraction, exponent, signed, isWhole, isFraction, isExponent⟩ := h
  obtain ⟨noDigit, noPoint⟩ := isExponent.ends ends
  have wholes := isWhole.taken (isFraction.ends noDigit)
  obtain ⟨_, fractions⟩ := isFraction.taken noDigit noPoint
  obtain ⟨_, exponents⟩ := isExponent.taken ends
  rcases signed with rfl | rfl
  · obtain ⟨d, ds, rfl⟩ := List.exists_cons_of_ne_nil isWhole.digits.2
    have unsigned : d ≠ '-' := by
      rintro rfl
      exact absurd (isWhole.digits.1 '-' (by simp)) (by decide)
    rw [List.cons_append] at wholes
    simp [skipNumber, unsigned, wholes, fractions, exponents, bind, Except.bind, pure, Except.pure]
  · simp [skipNumber, wholes, fractions, exponents, bind, Except.bind, pure, Except.pure]

end

/-! ## Strings -/

section

variable {cs rest : List Char}

theorem skipEscape_numbered {ds : List Char} (four : ds.length = 4)
    (hex : ∀ d ∈ ds, (Hex.value? d).isSome = true) (rest : List Char) :
    skipEscape ('u' :: (ds ++ rest)) = .ok rest := by
  match ds, four with
  | [a, b, c, d], _ =>
    obtain ⟨w, hw⟩ := Option.isSome_iff_exists.mp (hex a (by simp))
    obtain ⟨x, hx⟩ := Option.isSome_iff_exists.mp (hex b (by simp))
    obtain ⟨y, hy⟩ := Option.isSome_iff_exists.mp (hex c (by simp))
    obtain ⟨z, hz⟩ := Option.isSome_iff_exists.mp (hex d (by simp))
    simp [skipEscape, codeUnit, hw, hx, hy, hz, Except.map]

/-- A string is skipped up to its closing quote, when there are turns enough. -/
theorem IsStringRest.skipped (h : IsStringRest cs) (rest : List Char) : ∀ bound : List Char,
    cs.length ≤ bound.length → skipString bound (cs ++ rest) = .ok rest := by
  induction h with
  | close =>
    intro bound enough
    obtain ⟨_, bound, rfl⟩ := List.exists_cons_of_length_pos (Nat.lt_of_lt_of_le Nat.zero_lt_one enough)
    rfl
  | @character cs later isCharacter _ ih =>
    intro bound enough
    have some : 0 < cs.length := by cases isCharacter <;> simp
    rw [List.length_append] at enough
    obtain ⟨_, bound, rfl⟩ := List.exists_cons_of_length_pos (l := bound) (by omega)
    have next := ih bound (by rw [List.length_cons] at enough; omega)
    cases isCharacter with
    | plain noQuote noBackslash high => simp [skipString, noQuote, noBackslash, high, next]
    | @named c name =>
      have noUnit : c ≠ 'u' := by
        rintro rfl
        exact absurd name (by decide)
      simp only [List.cons_append, List.nil_append, skipString, skipEscape, if_neg noUnit, if_pos name,
        Char.reduceEq, if_false, if_true, next]
    | numbered four hex =>
      simp only [List.cons_append, List.append_assoc, skipString, skipEscape_numbered four hex,
        Char.reduceEq, if_false, if_true, next]

/-- The key of a member is skipped with its colon. -/
theorem skipKey_spaces {before key between : List Char} (spacesBefore : Spaces before)
    (isKey : IsStringRest key) (spacesBetween : Spaces between) (rest : List Char) :
    skipKey (before ++ '"' :: (key ++ (between ++ ':' :: rest))) = .ok rest := by
  have skipped := isKey.skipped (between ++ ':' :: rest) (key ++ (between ++ ':' :: rest)) (by simp)
  rw [skipKey, trimmed_spaces spacesBefore, trimmed_cons (by decide)]
  simp only [if_true, skipped, colon_spaces spacesBetween]

end

/-! ## Moves -/

/-- So many moves lead from one place to another. -/
inductive Moves : Nat → Skipped → Skipped → Prop
  | refl (p : Skipped) : Moves 0 p p
  | step {n : Nat} {p q r : Skipped} (first : p.step = .ok q) (later : Moves n q r) : Moves (n + 1) p r

section

variable {n k : Nat} {p q r : Skipped} {rest : List Char}

theorem Moves.one (h : p.step = .ok q) : Moves 1 p q := .step h (.refl q)

theorem Moves.trans (h : Moves n p q) (later : Moves k q r) : Moves (n + k) p r := by
  induction h with
  | refl => rwa [Nat.zero_add]
  | step first _ ih =>
    rw [Nat.add_right_comm]
    exact .step first (ih later)

/-- There is no way on from the end. -/
theorem Moves.of_done (h : Moves n (.done rest) q) : q = .done rest := by
  induction n with
  | zero =>
    cases h
    rfl
  | succ n ih =>
    obtain - | ⟨first, later⟩ := h
    cases first
    exact ih later

/-- Moves to the end are made, two for each character of the bound. -/
theorem Moves.run (bound : List Char) : ∀ {n : Nat} {p : Skipped}, Moves n p (.done rest) →
    n ≤ 2 * bound.length → p.run bound = .ok rest := by
  induction bound with
  | nil =>
    intro n p moves enough
    obtain rfl : n = 0 := Nat.le_zero.mp enough
    cases moves
    rfl
  | cons c bound ih =>
    intro n p moves enough
    -- an odd number of moves is made up for at the end
    have pair : ∃ p₁ p₂ m, p.step = .ok p₁ ∧ p₁.step = .ok p₂ ∧ Moves m p₂ (.done rest) ∧
        m ≤ 2 * bound.length := by
      rw [List.length_cons] at enough
      obtain - | ⟨first, - | ⟨second, later⟩⟩ := moves
      · exact ⟨_, _, 0, rfl, rfl, .refl _, by omega⟩
      · exact ⟨_, _, 0, first, rfl, .refl _, by omega⟩
      · exact ⟨_, _, _, first, second, later, by omega⟩
    obtain ⟨p₁, p₂, m, first, second, later, few⟩ := pair
    cases p with
    | done text =>
      cases moves.of_done
      rfl
    | due opened text =>
      simp only [Skipped.run, first, second, bind, Except.bind, ih later few]
    | inside fresh innermost outer text =>
      simp only [Skipped.run, first, second, bind, Except.bind, ih later few]

end

/-! ## Values are skipped -/

section

variable {ws cs front v rest : List Char}

theorem skipOpening_spaces (spaces : Spaces ws) (opened : List Bracket) (cs : List Char) :
    skipOpening opened (ws ++ cs) = skipOpening opened cs := by
  rw [skipOpening, skipOpening, trimmed_spaces spaces]

theorem IsNumber.begins (h : IsNumber cs) :
    ∃ c more, cs = c :: more ∧ (c = '-' ∨ c.isDigit = true) := by
  obtain @⟨sign, whole, fraction, exponent, signed, isWhole, _, _⟩ := h
  obtain ⟨d, ds, rfl⟩ := List.exists_cons_of_ne_nil isWhole.digits.2
  rcases signed with rfl | rfl
  · exact ⟨d, _, rfl, Or.inr (isWhole.digits.1 d (by simp))⟩
  · exact ⟨'-', _, rfl, Or.inl rfl⟩

/-- A value begins with no space and no closing bracket. -/
theorem Written.begins {phrase : Phrase} (h : Written phrase v) (value : phrase = .value) :
    ∃ c more, v = c :: more ∧ isSpace c = false ∧ c ≠ ']' := by
  cases h with
  | null => exact ⟨'n', _, rfl, by decide, by decide⟩
  | boolean b => cases b <;> exact ⟨_, _, rfl, by decide, by decide⟩
  | number isNumber =>
    obtain ⟨c, more, rfl, front⟩ := isNumber.begins
    have begins : Begins (c :: more) := ⟨c, more, rfl, front.imp_left fun minus => by simp [minus]⟩
    exact begins.opens.2
  | string => exact ⟨'"', _, rfl, by decide, by decide⟩
  | empty bracket => cases bracket <;> exact ⟨_, _, rfl, by decide, by decide⟩
  | nested bracket => cases bracket <;> exact ⟨_, _, rfl, by decide, by decide⟩
  | last => cases value
  | more => cases value

theorem skipOpening_number (h : IsNumber cs) (opened : List Bracket) (ends : NumberEnds rest) :
    skipOpening opened (cs ++ rest) = .ok (.behind opened rest) := by
  have skipped := h.skipped ends
  obtain ⟨c, more, rfl, front⟩ := h.begins
  have others : c ∉ [' ', '\n', '\t', '\r', '[', '\x7b', 'n', 't', 'f', '"'] := by
    intro other
    rcases front with rfl | digit
    · exact absurd other (by decide)
    · simp only [List.mem_cons, List.not_mem_nil, or_false] at other
      rcases other with rfl | rfl | rfl | rfl | rfl | rfl | rfl | rfl | rfl | rfl <;>
        exact absurd digit (by decide)
  simp only [List.mem_cons, List.not_mem_nil, or_false, not_or] at others
  rw [List.cons_append] at skipped ⊢
  rw [skipOpening, trimmed_cons (by simp [isSpace, others])]
  simp [others, skipped, Except.map]

/-- Inside a bracket the moves go on to the next value, behind a comma unless it is the first one. -/
theorem IsFront.enters {bracket : Bracket} (h : IsFront bracket front)
    (begins : ∃ c more, v = c :: more ∧ isSpace c = false ∧ c ≠ ']') (fresh : Bool)
    (outer : List Bracket) (spaces : Spaces ws) (rest : List Char) : ∃ behind, Spaces behind ∧
      (Skipped.inside fresh bracket outer (if fresh then front ++ (v ++ rest)
        else ws ++ ',' :: (front ++ (v ++ rest)))).step =
          .ok (.due (bracket :: outer) (behind ++ (v ++ rest))) := by
  obtain ⟨c, more, rfl, noSpace, notClosing⟩ := begins
  rw [Skipped.step]
  unfold skipInside
  cases h with
  | list spacesBefore =>
    cases fresh with
    | true =>
      refine ⟨[], spaces_nil, ?_⟩
      rw [if_pos rfl, trimmed_spaces spacesBefore, List.cons_append, trimmed_cons noSpace]
      simp [notClosing, Bracket.next]
    | false =>
      refine ⟨_, spacesBefore, ?_⟩
      rw [if_neg (by simp), trimmed_spaces spaces, trimmed_cons (by decide)]
      rfl
  | @object before key between behind spacesBefore isKey spacesBetween spacesBehind =>
    refine ⟨behind, spacesBehind, ?_⟩
    simp only [List.append_assoc, List.cons_append]
    cases fresh with
    | true =>
      have key := skipKey_spaces spaces_nil isKey spacesBetween (behind ++ (c :: (more ++ rest)))
      rw [List.nil_append] at key
      rw [if_pos rfl, trimmed_spaces spacesBefore, trimmed_cons (by decide)]
      simp [Bracket.next, key]
    | false =>
      have key := skipKey_spaces spacesBefore isKey spacesBetween (behind ++ (c :: (more ++ rest)))
      rw [if_neg (by simp), trimmed_spaces spaces, trimmed_cons (by decide)]
      simp [Bracket.next, key]

theorem skipInside_closing (bracket : Bracket) (fresh : Bool) (outer : List Bracket)
    (spaces : Spaces ws) (rest : List Char) :
    (Skipped.inside fresh bracket outer (ws ++ bracket.closing :: rest)).step =
      .ok (.behind outer rest) := by
  rw [Skipped.step]
  unfold skipInside
  rw [trimmed_spaces spaces]
  cases bracket <;>
  · rw [Bracket.closing, trimmed_cons (by decide)]
    rfl

theorem skipOpening_bracket (bracket : Bracket) (opened : List Bracket) (spaces : Spaces ws)
    (cs rest : List Char) :
    (Skipped.due opened (ws ++ (bracket.opening :: (cs ++ [bracket.closing]) ++ rest))).step =
      .ok (.inside true bracket opened (cs ++ bracket.closing :: rest)) := by
  rw [Skipped.step, skipOpening_spaces spaces, List.cons_append, List.append_assoc,
    List.singleton_append]
  cases bracket <;> rfl

/-- What it takes to skip a text: a value is left behind, spaces in front of it included, and what stands
inside a bracket is passed up to the spaces at its end. -/
def Skips : Phrase → List Char → Prop
  | .value, cs => ∀ (opened : List Bracket) (ws rest : List Char), Spaces ws → NumberEnds rest →
      ∃ n, n + 1 ≤ 2 * cs.length ∧
        Moves n (.due opened (ws ++ (cs ++ rest))) (.behind opened rest)
  | .inside bracket, cs => ∀ (fresh : Bool) (outer : List Bracket) (ws rest : List Char), Spaces ws →
      NumberEnds rest → ∃ n behind, n ≤ 2 * cs.length ∧ Spaces behind ∧
        Moves n (.inside fresh bracket outer (if fresh then cs ++ rest else ws ++ ',' :: (cs ++ rest)))
          (.inside false bracket outer (behind ++ rest))

/-- A scalar is left behind in one move. -/
theorem skips_scalar (some : cs ≠ []) (opening : ∀ opened rest, NumberEnds rest →
    skipOpening opened (cs ++ rest) = .ok (.behind opened rest)) : Skips .value cs := by
  intro opened ws rest spaces ends
  refine ⟨1, ?_, .one ?_⟩
  · have length := List.length_pos_iff.mpr some
    omega
  · rw [Skipped.step, skipOpening_spaces spaces, opening opened rest ends]

theorem numberEnds_cons {c : Char} (rest : List Char) (h : c ∈ [',', ']', '\x7d']) :
    NumberEnds (c :: rest) := by
  simp only [List.mem_cons, List.not_mem_nil, or_false] at h
  refine (closed_cons ?_).numberEnds
  tauto

/-- **A value is skipped**, in two moves at most for each of its characters. -/
theorem Written.skips {phrase : Phrase} (h : Written phrase cs) : Skips phrase cs := by
  induction h with
  | null => exact skips_scalar (by decide) fun _ _ _ => rfl
  | boolean b => cases b <;> exact skips_scalar (by decide) fun _ _ _ => rfl
  | number isNumber =>
    obtain ⟨c, more, rfl, _⟩ := isNumber.begins
    exact skips_scalar (by simp) fun opened rest => skipOpening_number isNumber opened
  | @string cs isString =>
    refine skips_scalar (by simp) fun opened rest _ => ?_
    have skipped := isString.skipped rest (cs ++ rest) (by simp)
    rw [List.cons_append, skipOpening, trimmed_cons (by decide)]
    simp [skipped, Except.map]
  | @empty bracket inner spacesInner =>
    intro opened ws rest spaces _
    have opens := skipOpening_bracket bracket opened spaces inner rest
    have closes := Moves.one (skipInside_closing bracket true opened spacesInner rest)
    refine ⟨2, ?_, .step opens closes⟩
    simp only [List.length_cons, List.length_append, List.length_nil]
    omega
  | @nested bracket cs _ ih =>
    intro opened ws rest spaces _
    have ends : NumberEnds (bracket.closing :: rest) :=
      numberEnds_cons rest (by cases bracket <;> decide)
    obtain ⟨n, behind, few, spacesBehind, moves⟩ :=
      ih true opened [] (bracket.closing :: rest) spaces_nil ends
    have opens := skipOpening_bracket bracket opened spaces cs rest
    have closes := Moves.one (skipInside_closing bracket false opened spacesBehind rest)
    refine ⟨n + 1 + 1, ?_, .step opens (moves.trans closes)⟩
    simp only [List.length_cons, List.length_append, List.length_nil]
    omega
  | @last bracket front v inner isFront value spacesInner ih =>
    intro fresh outer ws rest spaces ends
    obtain ⟨behind, spacesBehind, enters⟩ :=
      isFront.enters (value.begins rfl) fresh outer spaces (inner ++ rest)
    obtain ⟨n, few, moves⟩ :=
      ih (bracket :: outer) behind (inner ++ rest) spacesBehind (ends.spaces spacesInner)
    refine ⟨n + 1, inner, ?_, spacesInner, .step ?_ moves⟩
    · simp only [List.length_append]
      omega
    · simpa only [List.append_assoc] using enters
  | @more bracket front v inner cs isFront value spacesInner _ ih later =>
    intro fresh outer ws rest spaces ends
    have comma : NumberEnds (inner ++ ',' :: (cs ++ rest)) :=
      (numberEnds_cons _ (by decide)).spaces spacesInner
    obtain ⟨behind, spacesBehind, enters⟩ :=
      isFront.enters (value.begins rfl) fresh outer spaces (inner ++ ',' :: (cs ++ rest))
    obtain ⟨n, few, moves⟩ := ih (bracket :: outer) behind _ spacesBehind comma
    obtain ⟨k, last, fewer, spacesLast, others⟩ := later false outer inner rest spacesInner ends
    refine ⟨n + 1 + k, last, ?_, spacesLast, ?_⟩
    · simp only [List.length_append, List.length_cons]
      omega
    · refine Moves.trans (.step ?_ moves) others
      simpa only [List.append_assoc, List.cons_append] using enters

/-- A value is taken off the front, whatever it is. -/
theorem skip_value (h : IsValue v) (ends : NumberEnds rest) : skip (v ++ rest) = .ok rest := by
  obtain ⟨n, few, moves⟩ := h.skips [] [] rest spaces_nil ends
  refine moves.run (v ++ rest) ?_
  rw [List.length_append]
  omega

end

end IngressControl.Json
