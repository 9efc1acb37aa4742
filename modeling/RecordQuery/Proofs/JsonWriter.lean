import RecordQuery.Proofs.JsonGrammar

/-!
# Writing documents

`Document.chars` writes a document without spaces, and escapes in strings only what has to be
escaped.  Every document of well-formed numbers and whole strings is written as the grammar has it
(`Document.writes_chars`), so that the grammar has a text for all of them.
-/

namespace RecordQuery

namespace NumberLiteral

/-- A power of ten; plus is not written. -/
def exponentChars : Option (Bool × List Char) → List Char
  | none => []
  | some (false, digits) => 'e' :: digits
  | some (true, digits) => 'e' :: '-' :: digits

/-- The text of a number literal. -/
def chars (l : NumberLiteral) : List Char :=
  (if l.negative then ['-'] else []) ++
    (l.whole ++ (fractionText l.fraction ++ exponentChars l.exponent))

/-- There are digits and nothing else, and no zero in front of other whole digits. -/
def isWritable (l : NumberLiteral) : Bool :=
  !l.whole.isEmpty && l.whole.all Char.isDigit &&
    (l.whole.head? != some '0' || l.whole == ['0']) && l.fraction.all Char.isDigit &&
    match l.exponent with
    | none => true
    | some (_, digits) => !digits.isEmpty && digits.all Char.isDigit

/-- A power of ten is written in the grammar. -/
theorem writesExponent_chars {exponent : Option (Bool × List Char)}
    (h : ∀ negative digits, exponent = some (negative, digits) →
      digits ≠ [] ∧ ∀ c ∈ digits, c.isDigit = true) :
    WritesExponent exponent (exponentChars exponent) := by
  rcases exponent with - | ⟨negative, digits⟩
  · exact .absent
  · obtain ⟨hne, hdigits⟩ := h negative digits rfl
    cases negative with
    | false => exact .unsigned (by decide) hne hdigits
    | true => exact .signed (by decide) (by decide) hne hdigits

/-- A number literal is written in the grammar. -/
theorem writes_chars {l : NumberLiteral} (h : l.isWritable = true) : l.Writes l.chars := by
  unfold isWritable at h
  simp only [Bool.and_eq_true, Bool.not_eq_true', List.isEmpty_eq_false_iff, List.all_eq_true,
    Bool.or_eq_true, bne_iff_ne, beq_iff_eq] at h
  obtain ⟨⟨⟨⟨hne, hwhole⟩, hlead⟩, hfraction⟩, hexponent⟩ := h
  refine ⟨hne, hwhole, fun hzero => hlead.resolve_left fun hother => hother hzero, hfraction, _,
    writesExponent_chars ?_, rfl⟩
  intro negative digits hsome
  rw [hsome] at hexponent
  simpa using hexponent

end NumberLiteral

namespace Document

/-! ### Strings -/

/-- A character inside a string.  Quotes, backslashes and control characters are written by their
codes. -/
def escapeChar (c : Char) : List Char :=
  if c.toNat < 0x20 || c == '"' || c == '\\' then
    ['\\', 'u', '0', '0', (c.toNat / 16).digitChar, (c.toNat % 16).digitChar]
  else [c]

/-- Characters are written in the grammar. -/
theorem writesChars_escape (s : List Char) : WritesChars s (s.flatMap escapeChar) := by
  have hcode : ∀ n : Fin 128, Text.hexNumber?
      ['0', '0', (n.val / 16).digitChar, (n.val % 16).digitChar] = some n.val := by decide
  induction s with
  | nil => exact .nil
  | cons c s ih =>
    rw [List.flatMap_cons, escapeChar]
    split
    · next hescape =>
      have hlt : c.toNat < 128 := by
        simp only [Bool.or_eq_true, decide_eq_true_eq, beq_iff_eq] at hescape
        rcases hescape with (hcontrol | rfl) | rfl
        · omega
        · decide
        · decide
      exact .code (hcode ⟨c.toNat, hlt⟩) ih
    · next hplain =>
      simp only [Bool.or_eq_true, decide_eq_true_eq, beq_iff_eq, not_or, Nat.not_lt] at hplain
      exact .plain hplain.1.1 hplain.1.2 hplain.2 ih

/-- The text of a string. -/
def stringChars (s : String) : List Char := '"' :: (s.toList.flatMap escapeChar ++ ['"'])

/-- A string is written in the grammar. -/
theorem opens_stringChars (s : String) (rest : List Char) :
    Opens (stringChars s ++ rest) (.string (some s)) rest := by
  have hopens : Opens ('"' :: (s.toList.flatMap escapeChar ++ '"' :: rest))
      (.string (some (String.ofList s.toList))) rest := .string (writesChars_escape s.toList)
  simpa [stringChars] using hopens

theorem spaces_nil : Spaces [] := fun _ hc => absurd hc List.not_mem_nil

/-- A key is written in the grammar. -/
theorem opensKey_stringChars (key : String) (rest : List Char) :
    OpensKey (stringChars key ++ ':' :: rest) key rest := by
  have hopens : OpensKey ([] ++ '"' :: (key.toList.flatMap escapeChar ++ '"' :: ([] ++ ':' ::
      ([] ++ rest)))) (String.ofList key.toList) rest :=
    .quoted spaces_nil (writesChars_escape key.toList) spaces_nil spaces_nil
  simpa [stringChars] using hopens

/-! ### Documents -/

mutual

/-- The text of a document. -/
def chars : Document → List Char
  | .null => ['n', 'u', 'l', 'l']
  | .bool true => ['t', 'r', 'u', 'e']
  | .bool false => ['f', 'a', 'l', 's', 'e']
  | .number l => l.chars
  | .string s => stringChars (s.getD "")
  | .array items => '[' :: itemsChars items
  | .object members => '{' :: membersChars members
  | .broken => []

/-- The text of items up to the closing bracket. -/
def itemsChars : List Document → List Char
  | [] => [']']
  | [d] => chars d ++ [']']
  | d :: ds => chars d ++ ',' :: itemsChars ds

/-- The text of members up to the closing brace. -/
def membersChars : List (Option String × Document) → List Char
  | [] => ['}']
  | [(key, d)] => stringChars (key.getD "") ++ ':' :: (chars d ++ ['}'])
  | (key, d) :: ms => stringChars (key.getD "") ++ ':' :: (chars d ++ ',' :: membersChars ms)

end

mutual

/-- Every number of the document is well-formed, every string is whole, and nothing is broken. -/
def isWritable : Document → Bool
  | .number l => l.isWritable
  | .string s => s.isSome
  | .array items => itemsWritable items
  | .object members => membersWritable members
  | .broken => false
  | _ => true

/-- All items are writable. -/
def itemsWritable : List Document → Bool
  | [] => true
  | d :: ds => isWritable d && itemsWritable ds

/-- All members are writable. -/
def membersWritable : List (Option String × Document) → Bool
  | [] => true
  | (key, d) :: ms => key.isSome && isWritable d && membersWritable ms

end

theorem itemsWritable_iff {items : List Document} :
    itemsWritable items = true ↔ ∀ d ∈ items, d.isWritable = true := by
  induction items with
  | nil => simp [itemsWritable]
  | cons d ds ih => simp [itemsWritable, ih]

theorem membersWritable_iff {members : List (Option String × Document)} :
    membersWritable members = true ↔
      ∀ member ∈ members, member.1.isSome = true ∧ member.2.isWritable = true := by
  induction members with
  | nil => simp [membersWritable]
  | cons member ms ih =>
    obtain ⟨key, d⟩ := member
    simp [membersWritable, ih]

mutual

/-- A document is written in the grammar, whatever follows it. -/
theorem opens_chars : ∀ {d : Document}, d.isWritable = true →
    ∀ rest, Opens (d.chars ++ rest) d rest
  | .null, _, _ => .null
  | .bool true, _, _ => .yes
  | .bool false, _, _ => .no
  | .number l, h, _ => .number (l.writes_chars h)
  | .string (some s), _, rest => opens_stringChars s rest
  | .array [], _, _ => .emptyArray spaces_nil
  | .array (d :: ds), h, rest => .array (opensItems_chars (List.cons_ne_nil d ds) h rest)
  | .object [], _, _ => .emptyObject spaces_nil
  | .object (m :: ms), h, rest => .object (opensMembers_chars (List.cons_ne_nil m ms) h rest)

/-- Items are written in the grammar. -/
theorem opensItems_chars : ∀ {items : List Document}, items ≠ [] → itemsWritable items = true →
    ∀ rest, OpensItems (itemsChars items ++ rest) items rest
  | [], hne, _, _ => absurd rfl hne
  | [d], _, h, rest => by
    have hd : d.isWritable = true := by simpa [itemsWritable] using h
    have hlast := OpensItems.last spaces_nil (opens_chars hd ([] ++ ']' :: rest)) spaces_nil
    simpa [itemsChars] using hlast
  | d :: d' :: ds, _, h, rest => by
    obtain ⟨hd, hds⟩ := Bool.and_eq_true_iff.1 h
    have hmore := opensItems_chars (List.cons_ne_nil d' ds) hds rest
    have hcons :=
      OpensItems.cons spaces_nil (opens_chars hd ([] ++ ',' :: _)) spaces_nil hmore
    simpa [itemsChars] using hcons

/-- Members are written in the grammar. -/
theorem opensMembers_chars : ∀ {members : List (Option String × Document)}, members ≠ [] →
    membersWritable members = true →
      ∀ rest, OpensMembers (membersChars members ++ rest) members rest
  | [], hne, _, _ => absurd rfl hne
  | [(some key, d)], _, h, rest => by
    have hd : d.isWritable = true := by simpa [membersWritable] using h
    have hlast := OpensMembers.last (opensKey_stringChars key _)
      (opens_chars hd ([] ++ '}' :: rest)) spaces_nil
    simpa [membersChars] using hlast
  | (some key, d) :: m :: ms, _, h, rest => by
    obtain ⟨hd, hms⟩ := Bool.and_eq_true_iff.1 h
    have hmore := opensMembers_chars (List.cons_ne_nil m ms) hms rest
    have hcons := OpensMembers.cons (opensKey_stringChars key _)
      (opens_chars hd ([] ++ ',' :: _)) spaces_nil hmore
    simpa [membersChars] using hcons

end

/-- The text of a document. -/
def text (d : Document) : String := String.ofList d.chars

/-- A writable document is written in the grammar. -/
theorem writes_text {d : Document} (h : d.isWritable = true) : d.Writes d.text := by
  have hopens := opens_chars h []
  rw [List.append_nil] at hopens
  exact ⟨[], d.chars, [], spaces_nil, spaces_nil, hopens, String.toList_ofList⟩

end Document

end RecordQuery
