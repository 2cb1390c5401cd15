import CveTriage.Proofs.Json.Literal

/-!
# Written values are read back

The tokens of a value are assembled to the value, and the texts of both layouts are cut
into the tokens of the value.
-/

set_option autoImplicit false

namespace CveTriage.Json

/-! ## Values are assembled from their tokens

The tokens of a value say all about it. The machine that reads a value takes them one by
one and ends with the value, whatever is open around it (`foldlM_step_tokens`). Between
the first bracket and the last one of an array it keeps the items so far in its frame, and
likewise the members of an object.

So the value that a list of tokens makes up is the one whose tokens they are
(`ofTokens?_tokens`).
-/

mutual

/-- The tokens of a value. -/
def tokens : Json → List Token
  | .array items => .openArray :: (itemTokens items ++ [.closeArray])
  | .object members => .openObject :: (memberTokens members ++ [.closeObject])
  | .string text => [.string (some text)]
  | .unpaired => [.string none]
  | value => [.scalar value]

/-- The tokens of the items of an array with the commas between them. -/
def itemTokens : List Json → List Token
  | [] => []
  | [item] => tokens item
  | item :: rest => tokens item ++ .comma :: itemTokens rest

/-- The tokens of the members of an object with the commas between them. -/
def memberTokens : List (Option String × Json) → List Token
  | [] => []
  | [(name, value)] => .string name :: .colon :: tokens value
  | (name, value) :: rest =>
    .string name :: .colon :: (tokens value ++ .comma :: memberTokens rest)

end

theorem itemTokens_cons_cons (item next : Json) (rest : List Json) :
    itemTokens (item :: next :: rest) = item.tokens ++ .comma :: itemTokens (next :: rest) :=
  rfl

theorem memberTokens_cons_cons (name : Option String) (value : Json)
    (next : Option String × Json) (rest : List (Option String × Json)) :
    memberTokens ((name, value) :: next :: rest) =
      .string name :: .colon :: (value.tokens ++ .comma :: memberTokens (next :: rest)) :=
  rfl

/-- Tokens of a value are taken in front of a first item like in front of any other. -/
theorem foldlM_step_firstItem (value : Json) (more : List Token) (stack : List Frame) :
    (value.tokens ++ more).foldlM step (.firstItem stack) =
      (value.tokens ++ more).foldlM step (.value (.array [] :: stack)) := by
  cases value <;> rfl

/-- The first item is looked for where the array could end as well. -/
theorem foldlM_step_firstItems (item : Json) (rest : List Json) (more : List Token)
    (stack : List Frame) :
    (itemTokens (item :: rest) ++ more).foldlM step (.firstItem stack) =
      (itemTokens (item :: rest) ++ more).foldlM step (.value (.array [] :: stack)) := by
  cases rest with
  | nil => exact foldlM_step_firstItem item more stack
  | cons next rest =>
      rw [itemTokens_cons_cons, List.append_assoc]
      exact foldlM_step_firstItem item _ stack

mutual

/-- **The tokens of a value lead to the value**, whatever is open around it. -/
theorem foldlM_step_tokens : ∀ (value : Json) (stack : List Frame),
    value.tokens.foldlM step (.value stack) = some (.after value stack)
  | .null, _ => rfl
  | .bool _, _ => rfl
  | .integer _, _ => rfl
  | .decimal _, _ => rfl
  | .string _, _ => rfl
  | .unpaired, _ => rfl
  | .array [], _ => rfl
  | .array (item :: rest), stack =>
      (foldlM_step_firstItems item rest [Token.closeArray] stack).trans
        (foldlM_step_itemTokens (item :: rest) [] stack (by simp))
  | .object [], _ => rfl
  | .object ((name, value) :: rest), stack => by
      have entered : (memberTokens ((name, value) :: rest) ++ [Token.closeObject]).foldlM step
          (.firstName stack) =
          (memberTokens ((name, value) :: rest) ++ [Token.closeObject]).foldlM step
            (.name [] stack) := by
        cases rest <;> rfl
      exact entered.trans (foldlM_step_memberTokens ((name, value) :: rest) [] stack (by simp))

/-- The tokens of items, up to the closing bracket, lead to the array with these items
behind those that are in its frame. -/
theorem foldlM_step_itemTokens : ∀ (items before : List Json) (stack : List Frame), items ≠ [] →
    (itemTokens items ++ [Token.closeArray]).foldlM step (.value (.array before :: stack)) =
      some (.after (.array (before.reverse ++ items)) stack)
  | [], _, _, nonempty => absurd rfl nonempty
  | [item], before, stack, _ => by
      have read := foldlM_step_tokens item (.array before :: stack)
      simp [itemTokens, read, step, afterValue]
  | item :: next :: rest, before, stack, _ => by
      have read := foldlM_step_tokens item (.array before :: stack)
      have others := foldlM_step_itemTokens (next :: rest) (item :: before) stack (by simp)
      rw [itemTokens_cons_cons, List.append_assoc, List.foldlM_append, read]
      simpa [step, afterValue] using others

/-- The tokens of members, up to the closing brace, lead to the object with these members
behind those that are in its frame. -/
theorem foldlM_step_memberTokens : ∀ (members before : List (Option String × Json))
    (stack : List Frame), members ≠ [] →
    (memberTokens members ++ [Token.closeObject]).foldlM step (.name before stack) =
      some (.after (.object (before.reverse ++ members)) stack)
  | [], _, _, nonempty => absurd rfl nonempty
  | [(name, value)], before, stack, _ => by
      have read := foldlM_step_tokens value (.object before name :: stack)
      simp [memberTokens, read, step, afterValue]
  | (name, value) :: next :: rest, before, stack, _ => by
      have read := foldlM_step_tokens value (.object before name :: stack)
      have others :=
        foldlM_step_memberTokens (next :: rest) ((name, value) :: before) stack (by simp)
      rw [memberTokens_cons_cons]
      simpa [read, step, afterValue] using others

end

/-- **A value is what its tokens make up.** -/
theorem ofTokens?_tokens (value : Json) : ofTokens? value.tokens = some value := by
  rw [ofTokens?, foldlM_step_tokens]

/-! ## Both layouts are read back

A text that is written is cut into pieces of known tokens: every piece is cut into its
tokens whatever comes behind it, unless it is a numeral that goes on there (`Lexes`). In
either layout a value ends in front of a mark, a line feed or the end of the text, none of
which continues a numeral. Blanks between the pieces leave no token. So the two layouts
have the same tokens, those of the value (`Plain.lexes_compactChars`,
`Plain.lexes_prettyChars`), and the value is read back from both (`Plain.parse?_of_writes`).

This is said of plain values. Their strings denote texts and their numerals are integers of
at most sixty-four bits.
-/

section Layout

/-- Every string and every name denotes a text, and every numeral is an integer of at most
sixty-four bits. -/
inductive Plain : Json → Prop where
  | null : Plain .null
  | bool (value : Bool) : Plain (.bool value)
  | integer {value : Int} (small : value.natAbs < Numeral.bound) : Plain (.integer value)
  | string (text : String) : Plain (.string text)
  | array {items : List Json} (plain : ∀ item ∈ items, Plain item) : Plain (.array items)
  | record {members : List (String × Json)} (plain : ∀ member ∈ members, Plain member.2) :
      Plain (.record members)

variable {char : Char} {text more : List Char} {lexed others : List Token}

/-! ### Cutting a text into tokens -/

theorem tokenize_blank (blank : isBlank char = true) :
    tokenize (char :: text) = tokenize text := by
  rw [tokenize, if_pos blank]

theorem tokenize_visible {token : Token} {after : List Char} (visible : isBlank char = false)
    (read : readToken char text = some (token, after)) :
    tokenize (char :: text) = (tokenize after).map (token :: ·) := by
  rw [tokenize, visible, if_neg Bool.false_ne_true]
  split
  next found =>
    rw [read] at found
    cases found
    rfl
  next missing =>
    rw [read] at missing
    cases missing

theorem isBlank_of_punctuation? {token : Token} (marks : punctuation? char = some token) :
    isBlank char = false := by
  unfold punctuation? at marks
  split at marks <;> first | rfl | cases marks

theorem isBlank_of_mem_newLine (depth : Nat) : ∀ char ∈ newLine depth, isBlank char = true := by
  intro char member
  rcases List.mem_cons.1 member with rfl | member
  · rfl
  · rw [List.eq_of_mem_replicate member]
    rfl

/-- The character is the first one of a literal or a numeral. -/
structure StartsScalar (char : Char) : Prop where
  visible : isBlank char = false
  unmarked : punctuation? char = none
  unquoted : char ≠ '"'

theorem startsScalar_of_isDigit (digit : char.isDigit = true) : StartsScalar char where
  visible := by
    rw [← Bool.not_eq_true]
    intro blank
    simp only [isBlank, Bool.or_eq_true, beq_iff_eq] at blank
    rcases blank with ((rfl | rfl) | rfl) | rfl <;> cases digit
  unmarked := by
    unfold punctuation?
    split <;> first | rfl | cases digit
  unquoted := by
    rintro rfl
    cases digit

/-- The text is cut into these tokens, whatever follows it, unless it is a numeral that
goes on there. -/
def Lexes (text : List Char) (tokens : List Token) : Prop :=
  ∀ rest, EndsNumeral rest → tokenize (text ++ rest) = (tokenize rest).map (tokens ++ ·)

namespace Lexes

theorem nil : Lexes [] [] := by
  intro rest _
  simp

theorem blanks {blanks : List Char} (blank : ∀ char ∈ blanks, isBlank char = true)
    (lexes : Lexes text lexed) : Lexes (blanks ++ text) lexed := by
  intro rest ends
  induction blanks with
  | nil => exact lexes rest ends
  | cons char blanks ih =>
      rw [List.forall_mem_cons] at blank
      rw [List.cons_append, List.cons_append, tokenize_blank blank.1, ih blank.2]

theorem punctuation {token : Token} (marks : punctuation? char = some token)
    (lexes : Lexes text lexed) : Lexes (char :: text) (token :: lexed) := by
  intro rest ends
  have read : readToken char (text ++ rest) = some (token, text ++ rest) := by
    simp only [readToken, marks]
  rw [List.cons_append, tokenize_visible (isBlank_of_punctuation? marks) read, lexes rest ends,
    Option.map_map]
  rfl

/-- A piece ends in front of anything that does not continue a numeral. -/
theorem append (first : Lexes text lexed) (second : Lexes (char :: more) others)
    (ends : continuesNumeral char = false) : Lexes (text ++ char :: more) (lexed ++ others) := by
  intro rest restEnds
  have followed : EndsNumeral (char :: more ++ rest) := endsNumeral_cons ends
  rw [List.append_assoc, first _ followed, second rest restEnds, Option.map_map]
  simp [Function.comp_def]

theorem comma (first : Lexes text lexed) (second : Lexes more others) :
    Lexes (text ++ ',' :: more) (lexed ++ .comma :: others) :=
  first.append (second.punctuation rfl) (by decide)

variable {closing : Char} {opened closed : Token}

/-- Brackets of either kind enclose a piece. -/
theorem bracketed (opens : punctuation? char = some opened)
    (closes : punctuation? closing = some closed) (ends : continuesNumeral closing = false)
    (lexes : Lexes text lexed) :
    Lexes (char :: (text ++ [closing])) (opened :: (lexed ++ [closed])) :=
  (lexes.append (nil.punctuation closes) ends).punctuation opens

/-- The closing bracket may stand on a line of its own. -/
theorem bracketed_lines (opens : punctuation? char = some opened)
    (closes : punctuation? closing = some closed) (depth : Nat) (lexes : Lexes text lexed) :
    Lexes (char :: (text ++ newLine depth ++ [closing])) (opened :: (lexed ++ [closed])) := by
  have last := Lexes.blanks (isBlank_of_mem_newLine depth) (nil.punctuation closes)
  rw [List.append_assoc]
  exact (lexes.append last (by decide)).punctuation opens

theorem scalar {value : Json} (starts : StartsScalar char)
    (read : ∀ rest, EndsNumeral rest → readScalar (char :: text ++ rest) = some (value, rest)) :
    Lexes (char :: text) [.scalar value] := by
  intro rest ends
  have token : readToken char (text ++ rest) = some (.scalar value, rest) := by
    have found := read rest ends
    rw [List.cons_append] at found
    simp only [readToken, starts.unmarked, if_neg starts.unquoted, found, Option.map_some]
  rw [List.cons_append, tokenize_visible starts.visible token]
  rfl

theorem quote (text : String) : Lexes (Json.quote text) [.string (some text)] := by
  intro rest _
  have token : readToken '"' (text.toList.flatMap escapeChar ++ '"' :: rest) =
      some (.string (some text), rest) := by
    rw [readToken, readString_quote]
    rfl
  rw [Json.quote, List.cons_append, List.append_assoc]
  exact tokenize_visible rfl token

theorem intChars {value : Int} (small : value.natAbs < Numeral.bound) :
    Lexes (Json.intChars value) [.scalar (.integer value)] := by
  have starts : ∃ first others, Json.intChars value = first :: others ∧ StartsScalar first := by
    cases value with
    | ofNat number =>
        obtain ⟨first, others, shape, digit⟩ := exists_digits_eq_cons number
        exact ⟨first, others, shape, startsScalar_of_isDigit digit⟩
    | negSucc number => exact ⟨'-', _, rfl, by constructor <;> decide⟩
  obtain ⟨first, others, shape, starts⟩ := starts
  rw [shape]
  refine scalar starts fun rest ends => ?_
  rw [← shape]
  exact readScalar_intChars small ends

end Lexes

/-! ### The two layouts -/

theorem lexes_compactItems {items : List Json}
    (each : ∀ item ∈ items, Lexes (compactChars item) item.tokens) :
    Lexes (compactItems items) (itemTokens items) := by
  induction items with
  | nil => exact .nil
  | cons item rest ih =>
      rw [List.forall_mem_cons] at each
      cases rest with
      | nil => exact each.1
      | cons next rest => exact each.1.comma (ih each.2)

theorem lexes_compactMembers {members : List (String × Json)}
    (each : ∀ member ∈ members, Lexes (compactChars member.2) member.2.tokens) :
    Lexes (compactMembers (members.map fun member => (some member.1, member.2)))
      (memberTokens (members.map fun member => (some member.1, member.2))) := by
  induction members with
  | nil => exact .nil
  | cons member rest ih =>
      rw [List.forall_mem_cons] at each
      have name := Lexes.quote member.1
      cases rest with
      | nil => exact name.append (each.1.punctuation rfl) (by decide)
      | cons next rest =>
          exact name.append ((each.1.comma (ih each.2)).punctuation rfl) (by decide)

theorem lexes_prettyItems {items : List Json} (depth : Nat)
    (each : ∀ item ∈ items, Lexes (prettyChars depth item) item.tokens) :
    Lexes (prettyItems depth items) (itemTokens items) := by
  induction items with
  | nil => exact .nil
  | cons item rest ih =>
      rw [List.forall_mem_cons] at each
      have indented := Lexes.blanks (isBlank_of_mem_newLine depth) each.1
      cases rest with
      | nil => exact indented
      | cons next rest => exact indented.comma (ih each.2)

theorem lexes_prettyMembers {members : List (String × Json)} (depth : Nat)
    (each : ∀ member ∈ members, Lexes (prettyChars depth member.2) member.2.tokens) :
    Lexes (prettyMembers depth (members.map fun member => (some member.1, member.2)))
      (memberTokens (members.map fun member => (some member.1, member.2))) := by
  induction members with
  | nil => exact .nil
  | cons member rest ih =>
      rw [List.forall_mem_cons] at each
      have name := Lexes.blanks (isBlank_of_mem_newLine depth) (.quote member.1)
      have gap {text : List Char} {lexed : List Token} (lexes : Lexes text lexed) :
          Lexes (' ' :: text) lexed :=
        @Lexes.blanks _ _ [' '] (by simp [isBlank]) lexes
      cases rest with
      | nil => exact name.append ((gap each.1).punctuation rfl) (by decide)
      | cons next rest =>
          exact name.append ((gap (each.1.comma (ih each.2))).punctuation rfl) (by decide)

/-- **The compact layout has the tokens of the value.** -/
theorem Plain.lexes_compactChars {value : Json} (plain : value.Plain) :
    Lexes (compactChars value) value.tokens := by
  induction plain with
  | null => exact .scalar (by constructor <;> decide) fun _ _ => rfl
  | bool value =>
      cases value <;> exact .scalar (by constructor <;> decide) fun _ _ => rfl
  | integer small => exact .intChars small
  | string text => exact .quote text
  | array _ ih => exact .bracketed rfl rfl (by decide) (lexes_compactItems ih)
  | record _ ih => exact .bracketed rfl rfl (by decide) (lexes_compactMembers ih)

/-- **The pretty layout has the tokens of the value**, at any depth. -/
theorem Plain.lexes_prettyChars {value : Json} (plain : value.Plain) (depth : Nat) :
    Lexes (prettyChars depth value) value.tokens := by
  induction plain generalizing depth with
  | null => exact .scalar (by constructor <;> decide) fun _ _ => rfl
  | bool value =>
      cases value <;> exact .scalar (by constructor <;> decide) fun _ _ => rfl
  | integer small => exact .intChars small
  | string text => exact .quote text
  | @array items _ ih =>
      cases items with
      | nil => exact .bracketed rfl rfl (by decide) .nil
      | cons item rest =>
          exact .bracketed_lines rfl rfl depth
            (lexes_prettyItems (depth + 1) fun item member => ih item member (depth + 1))
  | @record members _ ih =>
      cases members with
      | nil => exact .bracketed rfl rfl (by decide) .nil
      | cons member rest =>
          exact .bracketed_lines rfl rfl depth
            (lexes_prettyMembers (depth + 1) fun member mem => ih member mem (depth + 1))

/-- The text is the value in one of the two layouts. -/
def Writes (value : Json) (text : String) : Prop :=
  text = compact value ∨ text = pretty value

/-- **A plain value is read back from either layout.** -/
theorem Plain.parse?_of_writes {value : Json} {text : String} (plain : value.Plain)
    (writes : value.Writes text) : parse? text = some value := by
  have whole (chars : List Char) (lexes : Lexes chars value.tokens) :
      parse? (String.ofList chars) = some value := by
    have tokenized := lexes [] endsNumeral_nil
    rw [List.append_nil, tokenize, Option.map_some, List.append_nil] at tokenized
    rw [parse?, String.toList_ofList, tokenized, Option.bind_some, ofTokens?_tokens]
  rcases writes with rfl | rfl
  · exact whole _ plain.lexes_compactChars
  · exact whole _ (plain.lexes_prettyChars 0)

end Layout

end CveTriage.Json
