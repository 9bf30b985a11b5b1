import ConfigGate.Rule.Token

/-!
# Layouts of token sequences

A text is a layout of a sequence of placed tokens when it is their spellings, in order, with white
space anywhere around them, each token placed at the byte where its spelling starts. Two
identifiers next to each other need something between them, or they would read as one.

Results:
1. `lexeme_sound`, `lexeme_complete`: one step of reading takes one spelling off the front;
2. `tokensFrom_eq_ok_iff`: a text reads as some tokens exactly when it is a layout of them;
3. `tokens_eq_ok_iff`: the same of a whole rule, which must have a token.
-/

namespace ConfigGate.Rule

open Text

/-! ## Definitions -/

/-- `Spelling token cs`: the characters `cs` spell the token. Only the implication has two
spellings. -/
inductive Spelling : Token → List Char → Prop
  | ident {name : String} : isIdentifier name.toList = true → Spelling (.ident name) name.toList
  | quoted {body : String} : '"' ∉ body.toList →
      Spelling (.quoted body) ('"' :: (body.toList ++ ['"']))
  | dot : Spelling .dot ['.']
  | equal : Spelling .equal ['=', '=']
  | notEqual : Spelling .notEqual ['!', '=']
  | implies : Spelling .implies ['=', '>']
  | arrow : Spelling .implies ['⇒']

/-- Whether a text goes on with a character of identifiers. -/
def continuesIdent (rest : List Char) : Bool := (rest.head?.map isIdentChar).getD false

/-- A token ends before `rest`: an identifier must not go on there. -/
def EndsBefore : Token → List Char → Prop
  | .ident _, rest => continuesIdent rest = false
  | _, _ => True

/-- `Layout position cs placed`: the characters `cs`, the first of which stands at byte `position`,
are a layout of the tokens `placed`. -/
inductive Layout : Nat → List Char → List PlacedToken → Prop
  | done {position : Nat} : Layout position [] []
  | blank {position : Nat} {c : Char} {rest : List Char} {placed : List PlacedToken} :
      isBlank c = true → Layout (position + c.utf8Size) rest placed →
      Layout position (c :: rest) placed
  | token {position : Nat} {token : Token} {spelled rest : List Char}
      {placed : List PlacedToken} :
      Spelling token spelled → EndsBefore token rest →
      Layout (position + byteLength spelled) rest placed →
      Layout position (spelled ++ rest) (⟨token, position⟩ :: placed)

/-! ## Characters -/

namespace LayoutLemmas

theorem toNat_of_isBlank {c : Char} (blank : isBlank c = true) :
    c.toNat ≤ 32 ∨ 133 ≤ c.toNat := by
  simp only [isBlank, Bool.or_eq_true, Bool.and_eq_true, decide_eq_true_eq, beq_iff_eq] at blank
  rcases blank with ((((((((((low | equal) | equal) | equal) | equal) | high) | equal) | equal) |
    equal) | equal) | equal)
  · have below : c.toNat ≤ '\r'.toNat := low.2
    exact Or.inl (Nat.le_trans below (by decide))
  all_goals first
    | (have above : '\u2000'.toNat ≤ c.toNat := high.1
       exact Or.inr (Nat.le_trans (by decide) above))
    | (subst equal; decide)

theorem toNat_of_isIdentStart {c : Char} (start : isIdentStart c = true) :
    65 ≤ c.toNat ∧ c.toNat ≤ 122 := by
  have cases : ((c.isUpper || c.isLower) || c == '_') = true := start
  rw [Bool.or_eq_true, Bool.or_eq_true, beq_iff_eq] at cases
  rcases cases with (upper | lower) | rfl
  · obtain ⟨low, high⟩ : 'A'.val ≤ c.val ∧ c.val ≤ 'Z'.val := of_decide_eq_true upper
    have low : 65 ≤ c.toNat := low
    have high : c.toNat ≤ 90 := high
    omega
  · have range : (decide ('a'.val ≤ c.val) && decide (c.val ≤ 'z'.val)) = true := lower
    rw [Bool.and_eq_true, decide_eq_true_eq, decide_eq_true_eq] at range
    have low : 97 ≤ c.toNat := range.1
    have high : c.toNat ≤ 122 := range.2
    omega
  · decide

theorem ne_of_isIdentStart {c d : Char} (start : isIdentStart c = true)
    (other : isIdentStart d = false) : c ≠ d := by
  rintro rfl
  rw [start] at other
  exact absurd other (by decide)

/-- A run that satisfies `p` is taken whole when what follows it does not begin with such a
character. -/
theorem takeWhile_run {p : Char → Bool} {run rest : List Char} (all : ∀ c ∈ run, p c = true)
    (stops : (rest.head?.map p).getD false = false) : (run ++ rest).takeWhile p = run := by
  rw [List.takeWhile_append_of_pos all]
  cases rest with
  | nil => simp
  | cons c rest =>
      have fails : ¬p c = true := by simpa using stops
      rw [List.takeWhile_cons_of_neg fails, List.append_nil]

theorem continuesIdent_dropWhile (rest : List Char) :
    continuesIdent (rest.dropWhile isIdentChar) = false := by
  have stopped := List.head?_dropWhile_not isIdentChar rest
  unfold continuesIdent
  cases shape : (rest.dropWhile isIdentChar).head? with
  | none => rfl
  | some c => simpa [shape] using stopped

/-- A text that is not free of quotes is cut in two at its first quote. -/
theorem split_at_quote {rest : List Char}
    (notWhole : ¬(rest.takeWhile (· ≠ '"')).length = rest.length) :
    ∃ tail, rest = rest.takeWhile (· ≠ '"') ++ '"' :: tail := by
  have parts : rest.takeWhile (· ≠ '"') ++ rest.dropWhile (· ≠ '"') = rest :=
    List.takeWhile_append_dropWhile
  have stopped := List.head?_dropWhile_not (fun c => decide (c ≠ '"')) rest
  cases shape : rest.dropWhile (fun c => decide (c ≠ '"')) with
  | nil =>
      rw [shape, List.append_nil] at parts
      exact absurd (congrArg List.length parts) notWhole
  | cons d tail =>
      rw [shape] at parts stopped
      have quote : d = '"' := by simpa using stopped
      subst quote
      exact ⟨tail, parts.symm⟩

theorem not_mem_takeWhile_quote (rest : List Char) :
    '"' ∉ rest.takeWhile (· ≠ '"') := by
  intro member
  have all := List.all_takeWhile (p := fun c => decide (c ≠ '"')) (l := rest)
  simpa using List.all_eq_true.mp all _ member

/-! ## Single tokens -/

theorem spelling_first {token : Token} {spelled : List Char} (spelling : Spelling token spelled) :
    ∃ c more, spelled = c :: more ∧ isBlank c = false := by
  cases spelling with
  | @ident name valid =>
      cases shape : name.toList with
      | nil => simp [shape, isIdentifier] at valid
      | cons c more =>
          simp only [shape, isIdentifier, Bool.and_eq_true] at valid
          have bounds := toNat_of_isIdentStart valid.1
          refine ⟨c, more, rfl, Bool.eq_false_iff.mpr fun blank => ?_⟩
          have outside := toNat_of_isBlank blank
          omega
  | quoted _ => exact ⟨_, _, rfl, by decide⟩
  | dot => exact ⟨_, _, rfl, by decide⟩
  | equal => exact ⟨_, _, rfl, by decide⟩
  | notEqual => exact ⟨_, _, rfl, by decide⟩
  | implies => exact ⟨_, _, rfl, by decide⟩
  | arrow => exact ⟨_, _, rfl, by decide⟩

end LayoutLemmas

open LayoutLemmas

/-- What a step of reading takes is a spelling of the token it gives. -/
theorem lexeme_sound {position : Nat} {c : Char} {rest : List Char} {token : Token} {extra : Nat}
    (read : lexeme position c rest = .ok (token, extra)) :
    ∃ more tail, rest = more ++ tail ∧ more.length = extra ∧ Spelling token (c :: more) ∧
      EndsBefore token tail := by
  unfold lexeme at read
  simp only at read
  split at read
  · rename_i quote
    subst quote
    split at read
    · exact absurd read (by simp)
    · rename_i notWhole
      cases read
      obtain ⟨tail, parts⟩ := split_at_quote notWhole
      have clean : '"' ∉ (String.ofList (rest.takeWhile (· ≠ '"'))).toList := by
        rw [String.toList_ofList]
        exact not_mem_takeWhile_quote rest
      have spelling := Spelling.quoted clean
      rw [String.toList_ofList] at spelling
      exact ⟨_, tail, by rw [List.append_assoc]; exact parts, by simp, spelling, trivial⟩
  · split at read
    · rename_i point
      subst point
      cases read
      exact ⟨[], rest, rfl, rfl, .dot, trivial⟩
    · split at read
      · rename_i arrow
        subst arrow
        cases read
        exact ⟨[], rest, rfl, rfl, .arrow, trivial⟩
      · split at read
        · rename_i start
          cases read
          refine ⟨rest.takeWhile isIdentChar, rest.dropWhile isIdentChar,
            List.takeWhile_append_dropWhile.symm, rfl, ?_,
            continuesIdent_dropWhile rest⟩
          have valid : isIdentifier
              (String.ofList (c :: rest.takeWhile isIdentChar)).toList = true := by
            rw [String.toList_ofList]
            simp [isIdentifier, start, List.all_takeWhile]
          have spelling := Spelling.ident valid
          rwa [String.toList_ofList] at spelling
        · split at read
          · cases read
            exact ⟨['='], _, rfl, rfl, .equal, trivial⟩
          · cases read
            exact ⟨['>'], _, rfl, rfl, .implies, trivial⟩
          · cases read
            exact ⟨['='], _, rfl, rfl, .notEqual, trivial⟩
          · exact absurd read (by simp)

/-- A spelling that ends before the rest is taken whole. -/
theorem lexeme_complete {position : Nat} {token : Token} {c : Char} {more tail : List Char}
    (spelling : Spelling token (c :: more)) (ends : EndsBefore token tail) :
    lexeme position c (more ++ tail) = .ok (token, more.length) := by
  generalize shape : c :: more = spelled at spelling
  cases spelling with
  | @ident name valid =>
      rw [← shape] at valid
      simp only [isIdentifier, Bool.and_eq_true, List.all_eq_true] at valid
      obtain ⟨start, all⟩ := valid
      -- The identifier is the longest run only because what follows cannot continue it.
      have run := takeWhile_run all ends
      simp only [lexeme, ne_of_isIdentStart start (show isIdentStart '"' = false by decide),
        ne_of_isIdentStart start (show isIdentStart '.' = false by decide),
        ne_of_isIdentStart start (show isIdentStart '⇒' = false by decide), start, run,
        ↓reduceIte]
      rw [shape, String.ofList_toList]
  | @quoted body clean =>
      obtain ⟨rfl, rfl⟩ := List.cons.inj shape
      have all : ∀ d ∈ body.toList, decide (d ≠ '"') = true := by
        intro d member
        simp only [ne_eq, decide_eq_true_eq]
        rintro rfl
        exact clean member
      have run : (body.toList ++ ['"'] ++ tail).takeWhile (· ≠ '"') = body.toList := by
        rw [List.append_assoc]
        exact takeWhile_run all (by simp)
      simp only [lexeme, run, ↓reduceIte]
      rw [if_neg (by simp), String.ofList_toList]
      simp
  | dot => obtain ⟨rfl, rfl⟩ := List.cons.inj shape; rfl
  | equal => obtain ⟨rfl, rfl⟩ := List.cons.inj shape; rfl
  | notEqual => obtain ⟨rfl, rfl⟩ := List.cons.inj shape; rfl
  | implies => obtain ⟨rfl, rfl⟩ := List.cons.inj shape; rfl
  | arrow => obtain ⟨rfl, rfl⟩ := List.cons.inj shape; rfl

/-! ## Whole texts -/

/-- A text that reads as tokens is a layout of them, and was read to its end. -/
theorem layout_of_tokensFrom {position finish : Nat} {cs : List Char} {placed : List PlacedToken}
    (read : tokensFrom position cs = .ok (placed, finish)) :
    Layout position cs placed ∧ finish = position + byteLength cs := by
  fun_induction tokensFrom position cs generalizing placed finish with
  | case1 position => cases read; exact ⟨.done, rfl⟩
  | case2 position c rest blank ih =>
      obtain ⟨layout, ending⟩ := ih read
      exact ⟨.blank blank layout, by rw [ending, byteLength, Nat.add_assoc]⟩
  | case3 => exact absurd read (by simp)
  | case4 => exact absurd read (by simp)
  | case5 position c rest notBlank token extra step tokens _ tailRead ih =>
      cases read
      -- What the lexeme took is its spelling, so the rest begins where the spelling ends.
      obtain ⟨more, tail, rfl, rfl, spelling, ends⟩ := lexeme_sound step
      rw [List.take_left, List.drop_left] at ih
      obtain ⟨following, ending⟩ := ih (by rwa [List.take_left, List.drop_left] at tailRead)
      rw [Nat.add_assoc] at following
      refine ⟨.token spelling ends following, ?_⟩
      rw [ending, byteLength, byteLength_append]
      omega

namespace LayoutLemmas

theorem tokensFrom_blank {position : Nat} {c : Char} {rest : List Char}
    (blank : isBlank c = true) :
    tokensFrom position (c :: rest) = tokensFrom (position + c.utf8Size) rest := by
  rw [tokensFrom.eq_def]
  exact if_pos blank

theorem tokensFrom_token {position finish : Nat} {c : Char} {more tail : List Char}
    {token : Token} {placed : List PlacedToken} (notBlank : isBlank c = false)
    (step : lexeme position c (more ++ tail) = .ok (token, more.length))
    (behind : tokensFrom (position + c.utf8Size + byteLength more) tail = .ok (placed, finish)) :
    tokensFrom position (c :: (more ++ tail)) = .ok (⟨token, position⟩ :: placed, finish) := by
  rw [tokensFrom.eq_def]
  simp only [notBlank, step, List.take_left, List.drop_left, behind, Bool.false_eq_true,
    ↓reduceIte]

end LayoutLemmas

/-- A layout reads as its tokens, to the end of the text. -/
theorem tokensFrom_of_layout {position : Nat} {cs : List Char} {placed : List PlacedToken}
    (layout : Layout position cs placed) :
    tokensFrom position cs = .ok (placed, position + byteLength cs) := by
  induction layout with
  | done => rw [tokensFrom.eq_def]; rfl
  | blank blank _ ih => rw [tokensFrom_blank blank, ih, byteLength, Nat.add_assoc]
  | token spelling ends _ ih =>
      obtain ⟨c, more, rfl, notBlank⟩ := spelling_first spelling
      rw [byteLength, ← Nat.add_assoc] at ih
      rw [byteLength_append, byteLength, ← Nat.add_assoc, ← Nat.add_assoc]
      exact tokensFrom_token notBlank (lexeme_complete spelling ends) ih

/-- A text reads as some tokens exactly when it is a layout of them. -/
theorem tokensFrom_eq_ok_iff {position finish : Nat} {cs : List Char}
    {placed : List PlacedToken} :
    tokensFrom position cs = .ok (placed, finish) ↔
      Layout position cs placed ∧ finish = position + byteLength cs :=
  ⟨layout_of_tokensFrom, fun ⟨layout, ending⟩ => ending ▸ tokensFrom_of_layout layout⟩

/-- A rule text reads as some tokens exactly when it is a layout of them and there is one. -/
theorem tokens_eq_ok_iff {text : String} {placed : List PlacedToken} {finish : Nat} :
    tokens text = .ok (placed, finish) ↔
      Layout 0 text.toList placed ∧ placed ≠ [] ∧ finish = text.utf8ByteSize := by
  have whole : tokensFrom 0 text.toList = .ok (placed, finish) ↔
      Layout 0 text.toList placed ∧ finish = text.utf8ByteSize := by
    rw [tokensFrom_eq_ok_iff, Nat.zero_add, byteLength_toList]
  rw [and_left_comm, ← whole]
  unfold tokens
  cases tokensFrom 0 text.toList with
  | error error => simp
  | ok found =>
      rcases found with ⟨_ | ⟨first, others⟩, ending⟩
      · constructor
        · rintro ⟨⟩
        · rintro ⟨some, ⟨⟩⟩
          exact absurd rfl some
      · constructor
        · rintro ⟨⟩
          exact ⟨List.cons_ne_nil _ _, rfl⟩
        · rintro ⟨-, ⟨⟩⟩
          rfl

end ConfigGate.Rule
