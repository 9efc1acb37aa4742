import Mathlib.Data.List.TakeDrop
import Mathlib.Data.List.TakeWhile
import RecordQuery.Json.Document

/-!
# The grammar of JSON texts

`Document.Opens cs d rest` says that the text `cs` begins with the document `d`, written in any way
that JSON allows, and goes on with `rest`: number literals as they are, any escapes in strings, and
spaces between all tokens.  The relation knows nothing of the reader.  The reader accepts every text
of the grammar and gives its document (`Document.read_of_writes`).

A number ends where its digits end, so that a document is read as it is written only where no digit
follows it.  Between the brackets of other documents this is always the case, since a space, a comma
or a bracket stands behind each document (`Delimited`).
-/

namespace RecordQuery

/-! ### Number literals -/

namespace NumberLiteral

/-- The texts of a power of ten. -/
inductive WritesExponent : Option (Bool × List Char) → List Char → Prop where
  | absent : WritesExponent none []
  | signed {mark sign : Char} {negative : Bool} {digits : List Char} (hmark : mark ∈ ['e', 'E'])
      (hsign : (sign, negative) ∈ [('+', false), ('-', true)]) (hne : digits ≠ [])
      (hdigits : ∀ c ∈ digits, c.isDigit = true) :
      WritesExponent (some (negative, digits)) (mark :: sign :: digits)
  | unsigned {mark : Char} {digits : List Char} (hmark : mark ∈ ['e', 'E']) (hne : digits ≠ [])
      (hdigits : ∀ c ∈ digits, c.isDigit = true) :
      WritesExponent (some (false, digits)) (mark :: digits)

/-- A fraction with its point; no digits are written as nothing. -/
def fractionText : List Char → List Char
  | [] => []
  | digits => '.' :: digits

/-- The texts of a number literal: whole digits that begin with a zero only where they are a single
zero, and after them a fraction and a power of ten. -/
structure Writes (l : NumberLiteral) (cs : List Char) : Prop where
  whole_ne : l.whole ≠ []
  whole_digits : ∀ c ∈ l.whole, c.isDigit = true
  whole_lead : l.whole.head? = some '0' → l.whole = ['0']
  fraction_digits : ∀ c ∈ l.fraction, c.isDigit = true
  text : ∃ exponent, WritesExponent l.exponent exponent ∧
    cs = (if l.negative then ['-'] else []) ++ (l.whole ++ (fractionText l.fraction ++ exponent))

/-- A number begins with a minus or a digit. -/
theorem Writes.head {l : NumberLiteral} {cs : List Char} (h : l.Writes cs) :
    ∃ c r, cs = c :: r ∧ (c = '-' ∨ c.isDigit = true) := by
  obtain ⟨exponent, -, rfl⟩ := h.text
  obtain ⟨d, ds, hwhole⟩ := List.exists_cons_of_ne_nil h.whole_ne
  rw [hwhole]
  cases l.negative with
  | true => exact ⟨'-', _, rfl, .inl rfl⟩
  | false => exact ⟨d, _, rfl, .inr (h.whole_digits d (by simp [hwhole]))⟩

/-- Nothing that could belong to a number follows. -/
def Ends (rest : List Char) : Prop :=
  ∀ c ∈ rest.head?, c.isDigit = false ∧ c ≠ '.' ∧ c ≠ 'e' ∧ c ≠ 'E'

/-- A run of digits is read up to what is no digit. -/
theorem takeDigits_append {digits rest : List Char} (hdigits : ∀ c ∈ digits, c.isDigit = true)
    (hrest : ∀ c ∈ rest.head?, c.isDigit = false) :
    takeDigits (digits ++ rest) = (digits, rest) := by
  have hnone : rest.takeWhile Char.isDigit = [] ∧ rest.dropWhile Char.isDigit = rest := by
    rcases rest with - | ⟨c, rest⟩
    · exact ⟨rfl, rfl⟩
    · have hc : ¬ c.isDigit = true := by simpa using hrest c rfl
      exact ⟨List.takeWhile_cons_of_neg hc, List.dropWhile_cons_of_neg hc⟩
  unfold takeDigits
  rw [List.span_eq_takeWhile_dropWhile, List.takeWhile_append_of_pos hdigits,
    List.dropWhile_append_of_pos hdigits, hnone.1, hnone.2, List.append_nil]

/-- A power of ten is read as it is written. -/
theorem readExponent_append {exponent : Option (Bool × List Char)} {cs rest : List Char}
    (h : WritesExponent exponent cs) (hrest : Ends rest) :
    readExponent (cs ++ rest) = some (exponent, rest) := by
  have hdigit : ∀ c ∈ rest.head?, c.isDigit = false := fun c hc => (hrest c hc).1
  cases h with
  | absent =>
    rcases rest with - | ⟨c, rest⟩
    · rfl
    · obtain ⟨-, -, he, hE⟩ := hrest c rfl
      simp [readExponent, he, hE]
  | @signed mark sign negative digits hmark hsign hne hdigits =>
    have hread := takeDigits_append hdigits hdigit
    simp only [List.mem_cons, List.not_mem_nil, or_false, Prod.mk.injEq] at hmark hsign
    rcases hmark with rfl | rfl <;> rcases hsign with ⟨rfl, rfl⟩ | ⟨rfl, rfl⟩ <;>
      simp [readExponent, takeSign, hread, hne]
  | @unsigned mark digits hmark hne hdigits =>
    have hread := takeDigits_append hdigits hdigit
    obtain ⟨d, ds, rfl⟩ := List.exists_cons_of_ne_nil hne
    have hd : d.isDigit = true := hdigits d List.mem_cons_self
    have hsign : takeSign (d :: (ds ++ rest)) = (false, d :: (ds ++ rest)) := by
      have hplus : d ≠ '+' := by rintro rfl; cases hd
      have hminus : d ≠ '-' := by rintro rfl; cases hd
      rw [takeSign.eq_def]
      split <;> simp_all
    rw [List.cons_append] at hread
    simp only [List.mem_cons, List.not_mem_nil, or_false] at hmark
    rcases hmark with rfl | rfl <;> simp [readExponent, hsign, hread]

/-- A fraction is read as it is written. -/
theorem readFraction_append {digits rest : List Char} (hdigits : ∀ c ∈ digits, c.isDigit = true)
    (hrest : ∀ c ∈ rest.head?, c.isDigit = false ∧ c ≠ '.') :
    readFraction (fractionText digits ++ rest) = some (digits, rest) := by
  rcases digits with - | ⟨d, ds⟩
  · rcases rest with - | ⟨c, rest⟩
    · rfl
    · have hpoint : c ≠ '.' := (hrest c rfl).2
      simp only [fractionText, List.nil_append]
      rw [readFraction.eq_def]
      split <;> simp_all
  · have hread := takeDigits_append hdigits fun c hc => (hrest c hc).1
    rw [List.cons_append] at hread
    simp [fractionText, readFraction, hread]

/-- Whole digits are read as they are written. -/
theorem readWhole_append {digits rest : List Char} (hne : digits ≠ [])
    (hdigits : ∀ c ∈ digits, c.isDigit = true) (hlead : digits.head? = some '0' → digits = ['0'])
    (hrest : ∀ c ∈ rest.head?, c.isDigit = false) :
    readWhole (digits ++ rest) = some (digits, rest) := by
  unfold readWhole
  rw [takeDigits_append hdigits hrest]
  split <;> simp_all

/-- What begins a fraction, a power of ten or what follows a number is no digit. -/
theorem Ends.fraction (fraction : List Char) {cs rest : List Char}
    {exponent : Option (Bool × List Char)} (h : WritesExponent exponent cs) (hrest : Ends rest) :
    (∀ c ∈ (cs ++ rest).head?, c.isDigit = false ∧ c ≠ '.') ∧
      ∀ c ∈ (fractionText fraction ++ (cs ++ rest)).head?, c.isDigit = false := by
  have hexponent : ∀ c ∈ (cs ++ rest).head?, c.isDigit = false ∧ c ≠ '.' := by
    cases h with
    | absent => exact fun c hc => ⟨(hrest c hc).1, (hrest c hc).2.1⟩
    | signed hmark hsign hne hdigits =>
      simp only [List.mem_cons, List.not_mem_nil, or_false] at hmark
      rcases hmark with rfl | rfl <;> simp
    | unsigned hmark hne hdigits =>
      simp only [List.mem_cons, List.not_mem_nil, or_false] at hmark
      rcases hmark with rfl | rfl <;> simp
  refine ⟨hexponent, ?_⟩
  rcases fraction with - | ⟨d, ds⟩
  · exact fun c hc => (hexponent c hc).1
  · simp [fractionText]

/-- A number literal is read as it is written. -/
theorem read_append {l : NumberLiteral} {cs rest : List Char} (h : l.Writes cs)
    (hrest : Ends rest) : read (cs ++ rest) = some (l, rest) := by
  obtain ⟨exponent, hexponent, rfl⟩ := h.text
  obtain ⟨hafter, hfraction⟩ := Ends.fraction l.fraction hexponent hrest
  have hwhole := readWhole_append h.whole_ne h.whole_digits h.whole_lead hfraction
  have hmiddle := readFraction_append h.fraction_digits hafter
  have hend := readExponent_append hexponent hrest
  obtain ⟨negative, whole, fraction, power⟩ := l
  obtain ⟨d, ds, rfl⟩ := List.exists_cons_of_ne_nil h.whole_ne
  have hminus : d ≠ '-' := by
    rintro rfl
    have hd := h.whole_digits '-' List.mem_cons_self
    cases hd
  dsimp only at hwhole hmiddle hend ⊢
  rw [List.cons_append] at hwhole
  unfold read
  cases negative <;> simp [hwhole, hmiddle, hend, hminus]

end NumberLiteral

namespace Document

/-! ### Strings -/

/-- The first surrogate of a character beyond U+FFFF. -/
def highSurrogate (c : Char) : Nat := 0xD800 + (c.toNat - 0x10000) / 0x400

/-- The second surrogate of a character beyond U+FFFF. -/
def lowSurrogate (c : Char) : Nat := 0xDC00 + (c.toNat - 0x10000) % 0x400

/-- The texts of characters inside a string: a character stands for itself where it may, and
otherwise or as well behind a backslash, by one letter, by its code, or by the codes of two
surrogates. -/
inductive WritesChars : List Char → List Char → Prop where
  | nil : WritesChars [] []
  | plain {c : Char} {s cs : List Char} (hcontrol : 0x20 ≤ c.toNat) (hquote : c ≠ '"')
      (hbackslash : c ≠ '\\') (h : WritesChars s cs) : WritesChars (c :: s) (c :: cs)
  | letter {c e : Char} {s cs : List Char} (he : shortEscape? e = some c) (h : WritesChars s cs) :
      WritesChars (c :: s) ('\\' :: e :: cs)
  | code {c h₁ h₂ h₃ h₄ : Char} {s cs : List Char}
      (hcode : Text.hexNumber? [h₁, h₂, h₃, h₄] = some c.toNat) (h : WritesChars s cs) :
      WritesChars (c :: s) ('\\' :: 'u' :: h₁ :: h₂ :: h₃ :: h₄ :: cs)
  | surrogates {c h₁ h₂ h₃ h₄ l₁ l₂ l₃ l₄ : Char} {s cs : List Char} (hwide : 0x10000 ≤ c.toNat)
      (hhigh : Text.hexNumber? [h₁, h₂, h₃, h₄] = some (highSurrogate c))
      (hlow : Text.hexNumber? [l₁, l₂, l₃, l₄] = some (lowSurrogate c))
      (h : WritesChars s cs) :
      WritesChars (c :: s) ('\\' :: 'u' :: h₁ :: h₂ :: h₃ :: h₄ :: '\\' :: 'u' :: l₁ :: l₂ :: l₃ ::
        l₄ :: cs)

/-- No character is a surrogate. -/
theorem toNat_bounds (c : Char) :
    (c.toNat < 0xD800 ∨ 0xDFFF < c.toNat) ∧ c.toNat < 0x110000 := by
  have hvalid : c.toNat < 0xD800 ∨ 0xDFFF < c.toNat ∧ c.toNat < 0x110000 := c.valid
  omega

/-- The unit of a character stands for it, whatever follows. -/
theorem charsOfUnits_cons (c : Char) (units : List Nat) :
    charsOfUnits (c.toNat :: units) = (charsOfUnits units).map (c :: ·) := by
  obtain ⟨hsurrogate, -⟩ := toNat_bounds c
  have hone : ¬ (0xD800 ≤ c.toNat ∧ c.toNat ≤ 0xDFFF) := by omega
  have hhigh : ¬ (0xD800 ≤ c.toNat ∧ c.toNat ≤ 0xDBFF) := by omega
  have hlow : ¬ (0xDC00 ≤ c.toNat ∧ c.toNat ≤ 0xDFFF) := by omega
  rcases units with - | ⟨m, units⟩
  · simp [charsOfUnits, hone, Char.ofNat_toNat]
  · simp [charsOfUnits, hhigh, hlow, Char.ofNat_toNat]

/-- The two surrogates of a character stand for it. -/
theorem charsOfUnits_surrogates {c : Char} (hwide : 0x10000 ≤ c.toNat) (units : List Nat) :
    charsOfUnits (highSurrogate c :: lowSurrogate c :: units) =
      (charsOfUnits units).map (c :: ·) := by
  obtain ⟨-, hlast⟩ := toNat_bounds c
  have hhigh : 0xD800 ≤ highSurrogate c ∧ highSurrogate c ≤ 0xDBFF := by
    unfold highSurrogate
    omega
  have hlow : 0xDC00 ≤ lowSurrogate c ∧ lowSurrogate c ≤ 0xDFFF := by
    unfold lowSurrogate
    omega
  have hchar : (highSurrogate c - 0xD800) * 0x400 + (lowSurrogate c - 0xDC00) + 0x10000 =
      c.toNat := by
    unfold highSurrogate lowSurrogate
    omega
  simp [charsOfUnits, hhigh, hlow, hchar, Char.ofNat_toNat]

/-- The characters of a string are read as they are written, up to the closing quote. -/
theorem readUnits_append {s cs : List Char} (h : WritesChars s cs) (rest : List Char) :
    ∃ units, readUnits (cs ++ '"' :: rest) = some (units, rest) ∧ charsOfUnits units = some s := by
  induction h with
  | nil => exact ⟨[], rfl, rfl⟩
  | @plain c s cs hcontrol hquote hbackslash h ih =>
    obtain ⟨units, hread, hchars⟩ := ih
    refine ⟨c.toNat :: units, ?_, ?_⟩
    · have hlow : ¬ (c.toNat < 0x20) := by omega
      rw [List.cons_append, readUnits.eq_def]
      split <;> simp_all
    · rw [charsOfUnits_cons, hchars]
      rfl
  | @letter c e s cs he h ih =>
    obtain ⟨units, hread, hchars⟩ := ih
    have hcode : e ≠ 'u' := by rintro rfl; cases he
    refine ⟨c.toNat :: units, ?_, ?_⟩
    · simp [readUnits, hcode, he, hread]
    · rw [charsOfUnits_cons, hchars]
      rfl
  | @code c h₁ h₂ h₃ h₄ s cs hcode h ih =>
    obtain ⟨units, hread, hchars⟩ := ih
    refine ⟨c.toNat :: units, ?_, ?_⟩
    · simp [readUnits, hcode, hread]
    · rw [charsOfUnits_cons, hchars]
      rfl
  | @surrogates c h₁ h₂ h₃ h₄ l₁ l₂ l₃ l₄ s cs hwide hhigh hlow h ih =>
    obtain ⟨units, hread, hchars⟩ := ih
    refine ⟨highSurrogate c :: lowSurrogate c :: units, ?_, ?_⟩
    · simp [readUnits, hhigh, hlow, hread]
    · rw [charsOfUnits_surrogates hwide, hchars]
      rfl

/-- A string is read as it is written, up to the closing quote. -/
theorem readString_append {s cs : List Char} (h : WritesChars s cs) (rest : List Char) :
    readString (cs ++ '"' :: rest) = some (some (String.ofList s), rest) := by
  obtain ⟨units, hread, hchars⟩ := readUnits_append h rest
  simp [readString, hread, hchars]

/-! ### Documents -/

/-- Spaces and nothing else. -/
def Spaces (cs : List Char) : Prop := ∀ c ∈ cs, isSpace c = true

/-- The text begins with a key and its colon, with spaces around both, and goes on with `rest`. -/
inductive OpensKey : List Char → String → List Char → Prop where
  | quoted {before s key middle after rest : List Char} (hbefore : Spaces before)
      (hkey : WritesChars s key) (hmiddle : Spaces middle) (hafter : Spaces after) :
      OpensKey (before ++ '"' :: (key ++ '"' :: (middle ++ ':' :: (after ++ rest))))
        (String.ofList s) rest

mutual

/-- The text begins with a document and goes on with `rest`. -/
inductive Opens : List Char → Document → List Char → Prop where
  | null {rest : List Char} : Opens ('n' :: 'u' :: 'l' :: 'l' :: rest) .null rest
  | yes {rest : List Char} : Opens ('t' :: 'r' :: 'u' :: 'e' :: rest) (.bool true) rest
  | no {rest : List Char} : Opens ('f' :: 'a' :: 'l' :: 's' :: 'e' :: rest) (.bool false) rest
  | number {l : NumberLiteral} {cs rest : List Char} (h : l.Writes cs) :
      Opens (cs ++ rest) (.number l) rest
  | string {s cs rest : List Char} (h : WritesChars s cs) :
      Opens ('"' :: (cs ++ '"' :: rest)) (.string (some (String.ofList s))) rest
  | emptyArray {inside rest : List Char} (h : Spaces inside) :
      Opens ('[' :: (inside ++ ']' :: rest)) (.array []) rest
  | array {cs rest : List Char} {items : List Document} (h : OpensItems cs items rest) :
      Opens ('[' :: cs) (.array items) rest
  | emptyObject {inside rest : List Char} (h : Spaces inside) :
      Opens ('{' :: (inside ++ '}' :: rest)) (.object []) rest
  | object {cs rest : List Char} {members : List (Option String × Document)}
      (h : OpensMembers cs members rest) : Opens ('{' :: cs) (.object members) rest

/-- The text begins with items up to a closing bracket and goes on with `rest`. -/
inductive OpensItems : List Char → List Document → List Char → Prop where
  | last {before cs after rest : List Char} {d : Document} (hbefore : Spaces before)
      (h : Opens cs d (after ++ ']' :: rest)) (hafter : Spaces after) :
      OpensItems (before ++ cs) [d] rest
  | cons {before cs after more rest : List Char} {d : Document} {items : List Document}
      (hbefore : Spaces before) (h : Opens cs d (after ++ ',' :: more)) (hafter : Spaces after)
      (hmore : OpensItems more items rest) : OpensItems (before ++ cs) (d :: items) rest

/-- The text begins with members up to a closing brace and goes on with `rest`. -/
inductive OpensMembers : List Char → List (Option String × Document) → List Char → Prop where
  | last {cs value after rest : List Char} {key : String} {d : Document}
      (hkey : OpensKey cs key value) (h : Opens value d (after ++ '}' :: rest))
      (hafter : Spaces after) : OpensMembers cs [(some key, d)] rest
  | cons {cs value after more rest : List Char} {key : String} {d : Document}
      {members : List (Option String × Document)} (hkey : OpensKey cs key value)
      (h : Opens value d (after ++ ',' :: more)) (hafter : Spaces after)
      (hmore : OpensMembers more members rest) : OpensMembers cs ((some key, d) :: members) rest

end

theorem OpensKey.length_lt {cs rest : List Char} {key : String} (h : OpensKey cs key rest) :
    rest.length < cs.length := by
  cases h
  simp only [List.length_append, List.length_cons]
  omega

mutual

theorem Opens.length_lt : ∀ {cs : List Char} {d : Document} {rest : List Char},
    Opens cs d rest → rest.length < cs.length
  | _, _, _, .null | _, _, _, .yes | _, _, _, .no => by simp only [List.length_cons]; omega
  | _, _, _, .number h => by
    obtain ⟨c, r, rfl, -⟩ := h.head
    simp only [List.length_append, List.length_cons]
    omega
  | _, _, _, .string h => by simp only [List.length_append, List.length_cons]; omega
  | _, _, _, .emptyArray h => by simp only [List.length_append, List.length_cons]; omega
  | _, _, _, .array h => Nat.lt_succ_of_lt h.length_lt
  | _, _, _, .emptyObject h => by simp only [List.length_append, List.length_cons]; omega
  | _, _, _, .object h => Nat.lt_succ_of_lt h.length_lt

theorem OpensItems.length_lt : ∀ {cs : List Char} {items : List Document} {rest : List Char},
    OpensItems cs items rest → rest.length < cs.length
  | _, _, _, .last _ h _ => by
    have hlt := h.length_lt
    simp only [List.length_append, List.length_cons] at hlt ⊢
    omega
  | _, _, _, .cons _ h _ hmore => by
    have hlt := h.length_lt
    have hmore := hmore.length_lt
    simp only [List.length_append, List.length_cons] at hlt hmore ⊢
    omega

theorem OpensMembers.length_lt : ∀ {cs : List Char} {members : List (Option String × Document)}
    {rest : List Char}, OpensMembers cs members rest → rest.length < cs.length
  | _, _, _, .last hkey h _ => by
    have hfirst := hkey.length_lt
    have hlt := h.length_lt
    simp only [List.length_append, List.length_cons] at hlt ⊢
    omega
  | _, _, _, .cons hkey h _ hmore => by
    have hfirst := hkey.length_lt
    have hlt := h.length_lt
    have hmore := hmore.length_lt
    simp only [List.length_append, List.length_cons] at hlt hmore ⊢
    omega

end

/-! ### Spaces -/

/-- Spaces in front are skipped. -/
theorem skipSpace_append {before : List Char} (h : Spaces before) (cs : List Char) :
    skipSpace (before ++ cs) = skipSpace cs :=
  List.dropWhile_append_of_pos h

/-- Nothing is skipped before what is no space. -/
theorem skipSpace_cons {c : Char} (h : isSpace c = false) (cs : List Char) :
    skipSpace (c :: cs) = c :: cs :=
  List.dropWhile_cons_of_neg (by simp [h])

/-- Spaces are skipped up to what is no space. -/
theorem skipSpace_append_cons {before : List Char} {c : Char} (h : Spaces before)
    (hc : isSpace c = false) (cs : List Char) : skipSpace (before ++ c :: cs) = c :: cs := by
  rw [skipSpace_append h, skipSpace_cons hc]

theorem skipSpace_skipSpace (cs : List Char) : skipSpace (skipSpace cs) = skipSpace cs := by
  induction cs with
  | nil => rfl
  | cons c cs ih =>
    by_cases h : isSpace c = true
    · simpa [skipSpace, h] using ih
    · have hkeep := skipSpace_cons (Bool.eq_false_iff.2 h) cs
      rw [hkeep, hkeep]

/-- Reading a document begins with skipping spaces. -/
theorem readFrom_congr {cs cs' : List Char} (h : skipSpace cs = skipSpace cs') (fuel : Nat) :
    readFrom fuel cs = readFrom fuel cs' := by
  rcases fuel with - | fuel
  · rfl
  · rw [readFrom, readFrom, h]

/-- Reading items begins with skipping spaces. -/
theorem readItems_skipSpace (fuel : Nat) (cs : List Char) :
    readItems fuel (skipSpace cs) = readItems fuel cs := by
  rcases fuel with - | fuel
  · rfl
  · rw [readItems, readItems, readFrom_congr (skipSpace_skipSpace cs)]

/-- Reading members begins with skipping spaces. -/
theorem readMembers_skipSpace (fuel : Nat) (cs : List Char) :
    readMembers fuel (skipSpace cs) = readMembers fuel cs := by
  have hkey : readKey (skipSpace cs) = readKey cs := by
    unfold readKey
    rw [skipSpace_skipSpace]
  rcases fuel with - | fuel
  · rfl
  · rw [readMembers, readMembers, hkey]

/-- What a number begins with is neither a space nor the beginning of another token. -/
theorem of_number_head {c : Char} (h : c = '-' ∨ c.isDigit = true) :
    isSpace c = false ∧ c ∉ ['[', ']', '{', '"', 'n', 't', 'f'] := by
  have hothers : [' ', '\n', '\r', '\t', '[', ']', '{', '"', 'n', 't', 'f'].all
      (fun other => other != '-' && !other.isDigit) = true := by decide
  have hall : ∀ other ∈ [' ', '\n', '\r', '\t', '[', ']', '{', '"', 'n', 't', 'f'], c ≠ other := by
    rintro other hmem rfl
    have hother := List.all_eq_true.1 hothers c hmem
    rcases h with rfl | h
    · simp at hother
    · simp [h] at hother
  constructor
  · unfold isSpace
    simp only [Bool.or_eq_false_iff, beq_eq_false_iff_ne]
    exact ⟨⟨⟨hall _ (by decide), hall _ (by decide)⟩, hall _ (by decide)⟩, hall _ (by decide)⟩
  · intro hmem
    exact hall c (List.mem_append_right [' ', '\n', '\r', '\t'] hmem) rfl

/-- A document begins with a character that is neither a space nor a closing bracket. -/
theorem Opens.head {cs rest : List Char} {d : Document} (h : Opens cs d rest) :
    ∃ c r, cs = c :: r ∧ isSpace c = false ∧ c ≠ ']' := by
  cases h with
  | @number l cs rest h =>
    obtain ⟨c, r, rfl, hc⟩ := h.head
    obtain ⟨hspace, hother⟩ := of_number_head hc
    exact ⟨c, r ++ rest, rfl, hspace, by rintro rfl; simp at hother⟩
  | _ => exact ⟨_, _, rfl, by decide, by decide⟩

/-- Items begin with a document and so not with a closing bracket. -/
theorem OpensItems.skipSpace_ne {cs rest : List Char} {items : List Document}
    (h : OpensItems cs items rest) (r : List Char) : skipSpace cs ≠ ']' :: r := by
  rcases h with ⟨hbefore, h, -⟩ | ⟨hbefore, h, -, -⟩ <;>
  · obtain ⟨c, r, rfl, hc, hbracket⟩ := h.head
    rw [skipSpace_append hbefore, skipSpace_cons hc]
    intro heq
    exact hbracket (List.cons.inj heq).1

/-- Members begin with a quote and so not with a closing brace. -/
theorem OpensMembers.skipSpace_ne {cs rest : List Char} {members : List (Option String × Document)}
    (h : OpensMembers cs members rest) (r : List Char) : skipSpace cs ≠ '}' :: r := by
  rcases h with ⟨⟨hbefore, -, -, -⟩, -, -⟩ | ⟨⟨hbefore, -, -, -⟩, -, -, -⟩ <;>
  · rw [skipSpace_append hbefore, skipSpace_cons (by decide)]
    intro heq
    exact absurd (List.cons.inj heq).1 (by decide)

/-! ### Reading -/

/-- A document ends before `rest`: nothing follows, or a space, a comma or a closing bracket. -/
def Delimited (rest : List Char) : Prop :=
  ∀ c ∈ rest.head?, isSpace c = true ∨ c ∈ [',', ']', '}']

/-- Behind spaces a comma or a bracket delimits. -/
theorem delimited_append {after rest : List Char} {c : Char} (h : Spaces after)
    (hc : c ∈ [',', ']', '}']) : Delimited (after ++ c :: rest) := by
  rcases after with - | ⟨a, after⟩
  · rintro _ ⟨⟩
    exact .inr hc
  · rintro _ ⟨⟩
    exact .inl (h a List.mem_cons_self)

/-- What delimits a document cannot belong to a number. -/
theorem Delimited.ends {rest : List Char} (h : Delimited rest) : NumberLiteral.Ends rest := by
  intro c hc
  rcases h c hc with hspace | hmem
  · unfold isSpace at hspace
    simp only [Bool.or_eq_true, beq_iff_eq] at hspace
    rcases hspace with ((rfl | rfl) | rfl) | rfl <;> decide
  · simp only [List.mem_cons, List.not_mem_nil, or_false] at hmem
    rcases hmem with rfl | rfl | rfl <;> decide

/-- A key is read as it is written. -/
theorem readKey_opens {cs rest : List Char} {key : String} (h : OpensKey cs key rest) :
    ∃ after, Spaces after ∧ readKey cs = some (some key, after ++ rest) := by
  cases h with
  | @quoted before s key middle after rest hbefore hkey hmiddle hafter =>
    refine ⟨after, hafter, ?_⟩
    unfold readKey
    rw [skipSpace_append_cons hbefore (by decide)]
    simp only [readString_append hkey,
      skipSpace_append_cons hmiddle (show isSpace ':' = false by decide)]

mutual

/-- A document is read as it is written. -/
theorem readFrom_opens : ∀ {cs : List Char} {d : Document} {rest : List Char}, Opens cs d rest →
    Delimited rest → ∀ fuel, 2 * cs.length ≤ fuel → readFrom fuel cs = (d, some rest)
  | _, _, _, h, hrest, 0, hfuel => by
    have hlt := h.length_lt
    omega
  | _, _, _, .null, _, fuel + 1, _ => by
    rw [readFrom, skipSpace_cons (by decide)]
    rfl
  | _, _, _, .yes, _, fuel + 1, _ => by
    rw [readFrom, skipSpace_cons (by decide)]
    rfl
  | _, _, _, .no, _, fuel + 1, _ => by
    rw [readFrom, skipSpace_cons (by decide)]
    rfl
  | _, _, _, .string h, _, fuel + 1, _ => by
    rw [readFrom, skipSpace_cons (by decide)]
    simp [readScalar, readString_append h]
  | _, _, _, .emptyArray h, _, fuel + 1, _ => by
    rw [readFrom, skipSpace_cons (by decide)]
    simp only [skipSpace_append_cons h (show isSpace ']' = false by decide)]
  | _, _, _, .emptyObject h, _, fuel + 1, _ => by
    rw [readFrom, skipSpace_cons (by decide)]
    simp only [skipSpace_append_cons h (show isSpace '}' = false by decide)]
  | _, _, _, .array h, _, fuel + 1, hfuel => by
    rw [List.length_cons] at hfuel
    have hitems := readItems_opens h fuel (by omega)
    rw [readFrom, skipSpace_cons (by decide)]
    simp only
    split
    · next hclose => exact absurd hclose (h.skipSpace_ne _)
    · rw [readItems_skipSpace, hitems]
  | _, _, _, .object h, _, fuel + 1, hfuel => by
    rw [List.length_cons] at hfuel
    have hmembers := readMembers_opens h fuel (by omega)
    rw [readFrom, skipSpace_cons (by decide)]
    simp only
    split
    · next hclose => exact absurd hclose (h.skipSpace_ne _)
    · rw [readMembers_skipSpace, hmembers]
  | _, _, _, .number h, hrest, fuel + 1, _ => by
    have hread := NumberLiteral.read_append h hrest.ends
    obtain ⟨c, r, rfl, hc⟩ := h.head
    obtain ⟨hspace, hother⟩ := of_number_head hc
    rw [List.cons_append] at hread ⊢
    rw [readFrom, skipSpace_cons hspace]
    simp only [List.mem_cons, List.not_mem_nil, or_false, not_or] at hother
    split
    · simp_all
    · simp_all
    · rw [readScalar.eq_def]
      split <;> simp_all

/-- Items are read as they are written. -/
theorem readItems_opens : ∀ {cs : List Char} {items : List Document} {rest : List Char},
    OpensItems cs items rest → ∀ fuel, 2 * cs.length + 1 ≤ fuel →
      readItems fuel cs = (items, some rest)
  | _, _, _, .last hbefore h hafter, fuel + 1, hfuel => by
    rw [List.length_append] at hfuel
    have hread := readFrom_opens h (delimited_append hafter (by decide)) fuel (by omega)
    rw [readItems, readFrom_congr (skipSpace_append hbefore _), hread]
    simp only [skipSpace_append_cons hafter (show isSpace ']' = false by decide)]
  | _, _, _, .cons hbefore h hafter hmore, fuel + 1, hfuel => by
    have hlt := h.length_lt
    simp only [List.length_append, List.length_cons] at hfuel hlt
    have hread := readFrom_opens h (delimited_append hafter (by decide)) fuel (by omega)
    have hitems := readItems_opens hmore fuel (by omega)
    rw [readItems, readFrom_congr (skipSpace_append hbefore _), hread]
    simp only [skipSpace_append_cons hafter (show isSpace ',' = false by decide), hitems]

/-- Members are read as they are written. -/
theorem readMembers_opens : ∀ {cs : List Char} {members : List (Option String × Document)}
    {rest : List Char}, OpensMembers cs members rest → ∀ fuel, 2 * cs.length + 1 ≤ fuel →
      readMembers fuel cs = (members, some rest)
  | _, _, _, .last hkey h hafter, fuel + 1, hfuel => by
    have hlt := hkey.length_lt
    obtain ⟨before, hbefore, hkey⟩ := readKey_opens hkey
    have hread := readFrom_opens h (delimited_append hafter (by decide)) fuel (by omega)
    rw [readMembers, hkey]
    simp only
    rw [readFrom_congr (skipSpace_append hbefore _), hread]
    simp only [skipSpace_append_cons hafter (show isSpace '}' = false by decide)]
  | _, _, _, .cons hkey h hafter hmore, fuel + 1, hfuel => by
    have hfirst := hkey.length_lt
    have hlt := h.length_lt
    simp only [List.length_append, List.length_cons] at hlt
    obtain ⟨before, hbefore, hkey⟩ := readKey_opens hkey
    have hread := readFrom_opens h (delimited_append hafter (by decide)) fuel (by omega)
    have hmembers := readMembers_opens hmore fuel (by omega)
    rw [readMembers, hkey]
    simp only
    rw [readFrom_congr (skipSpace_append hbefore _), hread]
    simp only [skipSpace_append_cons hafter (show isSpace ',' = false by decide), hmembers]

end

/-- The text holds the document, with spaces around it, and nothing else. -/
def Writes (d : Document) (text : String) : Prop :=
  ∃ before cs after, Spaces before ∧ Spaces after ∧ Opens cs d after ∧ text.toList = before ++ cs

/-- The reader gives the document that a text holds, and it finds nothing else in the text. -/
theorem read_of_writes {d : Document} {text : String} (h : d.Writes text) :
    read text.toList = (d, true) := by
  obtain ⟨before, cs, after, hbefore, hafter, hopens, htext⟩ := h
  have hdelimited : Delimited after := by
    intro c hc
    exact .inl (hafter c (List.mem_of_mem_head? hc))
  have hread : readFrom (2 * text.toList.length + 2) text.toList = (d, some after) := by
    rw [htext, readFrom_congr (skipSpace_append hbefore cs)]
    refine readFrom_opens hopens hdelimited _ ?_
    rw [List.length_append]
    omega
  have hend : skipSpace after = [] := by
    have hskip := skipSpace_append hafter []
    rwa [List.append_nil] at hskip
  unfold read
  rw [hread]
  simp [hend]

end Document

end RecordQuery
