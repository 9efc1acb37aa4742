import RecordQuery.TextSearch

/-!
# Search by words

A text falls into runs of characters between its separators (`Text.IsRun`), and the runs that are
not empty are its words.  The simple search looks at nothing else: a term is the conjunction of its
tokens and a text the disjunction of its words, so that both may be taken apart at any separator
(`TextSearch.simple_goesByWords`).
-/

namespace RecordQuery

namespace Text

variable {sep : Char → Bool} {c : Char} {cs p w : List Char}

/-! ### Runs between separators -/

/-- Characters none of which separates stand in a text, with a separator or an end of the text on
either side. -/
inductive IsRun (sep : Char → Bool) (cs p : List Char) : Prop where
  | stands (before after : List Char) (text : cs = before ++ p ++ after)
      (whole : ∀ c ∈ p, sep c = false) (left : ∀ c ∈ before.getLast?, sep c = true)
      (right : ∀ c ∈ after.head?, sep c = true) : IsRun sep cs p

/-- A run that is not empty. -/
def IsWord (sep : Char → Bool) (cs w : List Char) : Prop := IsRun sep cs w ∧ w ≠ []

/-- A run behind a separator is one of the whole text. -/
theorem IsRun.append_sep (run : IsRun sep cs p) (hc : sep c = true) (front : List Char) :
    IsRun sep (front ++ c :: cs) p := by
  obtain ⟨before, after, rfl, whole, left, right⟩ := run
  refine .stands (front ++ c :: before) after (by simp) whole ?_ right
  rw [List.getLast?_append, List.getLast?_cons, Option.some_or]
  rintro d ⟨⟩
  cases hlast : before.getLast? with
  | none => exact hc
  | some d => exact left d hlast

/-- Each piece is a run. -/
theorem isRun_of_mem_pieces (front : List Char) (hfront : ∀ c ∈ front, sep c = false)
    (h : p ∈ pieces sep (front ++ cs)) : IsRun sep (front ++ cs) p := by
  -- `front` is what has been read since the last separator: a run that begins in the middle of a
  -- word of the whole text would be none of it, so that the induction starts anew behind separators.
  induction cs generalizing front with
  | nil =>
    rw [List.append_nil] at h ⊢
    rw [pieces_of_forall hfront, List.mem_singleton] at h
    subst h
    exact .stands [] [] (by simp) hfront (by simp) (by simp)
  | cons c cs ih =>
    cases hc : sep c with
    | true =>
      rw [pieces_append_sep hc, pieces_of_forall hfront, List.singleton_append,
        List.mem_cons] at h
      rcases h with rfl | hbehind
      · exact .stands [] (c :: cs) rfl hfront (by simp) (by simp [hc])
      · exact (ih [] (List.forall_mem_nil _) hbehind).append_sep hc front
    | false =>
      rw [List.append_cons] at h ⊢
      exact ih (front ++ [c]) (by simpa [or_imp, forall_and, hc] using hfront) h

/-- Each run is a piece. -/
theorem IsRun.mem_pieces (run : IsRun sep cs p) : p ∈ pieces sep cs := by
  obtain ⟨before, after, rfl, whole, left, right⟩ := run
  have hback : p ∈ pieces sep (p ++ after) := by
    cases after with
    | nil => rw [List.append_nil, pieces_of_forall whole, List.mem_singleton]
    | cons c after =>
      rw [pieces_append_sep (right c rfl), pieces_of_forall whole]
      exact List.mem_cons_self
  rcases List.eq_nil_or_concat before with rfl | ⟨front, c, rfl⟩
  · exact hback
  · have hc : sep c = true := left c (by simp)
    rw [List.concat_eq_append, List.append_assoc, List.append_assoc, List.singleton_append,
      pieces_append_sep hc]
    exact List.mem_append_right _ hback

theorem mem_pieces_iff : p ∈ pieces sep cs ↔ IsRun sep cs p :=
  ⟨isRun_of_mem_pieces [] (List.forall_mem_nil _), IsRun.mem_pieces⟩

theorem mem_words_iff : w ∈ words sep cs ↔ IsWord sep cs w := by
  simp [words, IsWord, mem_pieces_iff]

/-- A separator stands in no word, so that the words before it and behind it are all. -/
theorem words_append_sep (hc : sep c = true) (cs ds : List Char) :
    words sep (cs ++ c :: ds) = words sep cs ++ words sep ds := by
  unfold words
  rw [pieces_append_sep hc, List.filter_append]

theorem words_push_append (hc : sep c = true) (a b : String) :
    words sep (a.push c ++ b).toList = words sep a.toList ++ words sep b.toList := by
  rw [String.toList_append, String.toList_push, List.append_assoc, List.singleton_append,
    words_append_sep hc]

/-- A text has no words when it consists of separators. -/
theorem words_eq_nil_iff : words sep cs = [] ↔ ∀ c ∈ cs, sep c = true := by
  induction cs with
  | nil => simp [words, pieces]
  | cons c cs ih =>
    rw [List.forall_mem_cons]
    cases hc : sep c with
    | true =>
      have hbehind : words sep (c :: cs) = words sep cs := words_append_sep hc [] cs
      rw [hbehind, ih, and_iff_right rfl]
    | false =>
      obtain ⟨p, ps, hp⟩ := List.exists_cons_of_ne_nil (pieces_ne_nil sep cs)
      simp [words, pieces, hc, hp]

end Text

namespace TextSearch

open Text

variable {text t₁ t₂ language term : String} {token : List Char}

/-! ### Tokens that begin words -/

/-- A token begins a word of a text, both in lower case. -/
def Begins (text : String) (token : List Char) : Prop :=
  ∃ word, IsWord (fun c => !isAlphanumeric c) text.toList word ∧
    lowerChars token <+: lowerChars word

/-- A token begins a word of two texts with a separator between them when it does so in one. -/
theorem begins_push_append {gap : Char} (hgap : isAlphanumeric gap = false) :
    Begins (t₁.push gap ++ t₂) token ↔ Begins t₁ token ∨ Begins t₂ token := by
  have hwords : words (fun c => !isAlphanumeric c) (t₁.push gap ++ t₂).toList = _ ++ _ :=
    words_push_append (by simpa using hgap) t₁ t₂
  simp only [Begins, ← mem_words_iff, hwords, List.mem_append, or_and_right, exists_or]

/-- A term that is not blank has a token. -/
theorem words_ne_nil_iff : words isBlank term.toList ≠ [] ↔
    ∃ c ∈ term.toList, isBlank c = false := by
  simp [words_eq_nil_iff]

/-- A text matches when there is a token and all tokens begin words. -/
theorem simple_iff : simple text language term = true ↔ words isBlank term.toList ≠ [] ∧
    ∀ token ∈ words isBlank term.toList, Begins text token := by
  simp [simple, tokensOf, wordsOf, Begins, mem_words_iff]

/-! ### Conjunction and disjunction -/

/-- A search goes by words: a term is the conjunction of its tokens, and a text the disjunction of
its words. -/
structure GoesByWords (search : TextSearch) : Prop where
  /-- A text matches when the term is not blank and each of its tokens begins a word. -/
  matches_iff : ∀ text language term, search text language term = true ↔
    (∃ c ∈ term.toList, isBlank c = false) ∧
      ∀ token, IsWord isBlank term.toList token → Begins text token
  /-- A text matches two terms with a blank between them when it matches each of them. -/
  terms : ∀ text language a b blank, (∃ c ∈ a.toList, isBlank c = false) →
    (∃ c ∈ b.toList, isBlank c = false) → isBlank blank = true →
      (search text language (a.push blank ++ b) = true ↔
        search text language a = true ∧ search text language b = true)
  /-- Two texts with a separator between them match a single token when one of them does. -/
  texts : ∀ t₁ t₂ language term token gap, words isBlank term.toList = [token] →
    isAlphanumeric gap = false →
      (search (t₁.push gap ++ t₂) language term = true ↔
        search t₁ language term = true ∨ search t₂ language term = true)
  /-- No text matches a blank term. -/
  blank : ∀ text language term, (∀ c ∈ term.toList, isBlank c = true) →
    search text language term = false

/-- The simple search goes by words. -/
theorem simple_goesByWords : GoesByWords simple := by
  constructor
  case matches_iff =>
    intro text language term
    simp only [simple_iff, words_ne_nil_iff, mem_words_iff]
  case terms =>
    intro text language a b blank ha hb hblank
    rw [← words_ne_nil_iff] at ha hb
    rw [simple_iff, simple_iff, simple_iff, words_push_append hblank, List.forall_mem_append]
    constructor
    · rintro ⟨-, hfront, hback⟩
      exact ⟨⟨ha, hfront⟩, hb, hback⟩
    · rintro ⟨⟨-, hfront⟩, -, hback⟩
      exact ⟨List.append_ne_nil_of_left_ne_nil ha _, hfront, hback⟩
  case texts =>
    intro t₁ t₂ language term token gap hterm hgap
    have htoken : ∀ text, simple text language term = true ↔ Begins text token := by
      intro text
      rw [simple_iff, hterm, List.forall_mem_singleton, and_iff_right (List.cons_ne_nil token [])]
    rw [htoken, htoken, htoken, begins_push_append hgap]
  case blank =>
    intro text language term hterm
    rw [← Bool.not_eq_true, simple_iff]
    exact fun ⟨hsome, _⟩ => hsome (words_eq_nil_iff.2 hterm)

/-- The quick fox and the brown one are found behind a hyphen by the beginnings of two words with a
space between them that does not break.  A blank term finds nothing. -/
theorem simple_goesByWords_fox :
    simple ("The quick".push '-' ++ "Brown Fox") "english" ("QUI".push '\u00a0' ++ " bro") = true ∧
      simple "The quick" "english" " bro" = false ∧
      simple "The quick" "english" " \u3000" = false := by
  obtain ⟨-, hterms, htexts, hblank⟩ := simple_goesByWords
  have hquick : simple ("The quick".push '-' ++ "Brown Fox") "english" "QUI" = true :=
    (htexts _ _ _ _ ['Q', 'U', 'I'] '-' (by decide) (by decide)).2
      (.inl (by decide))
  have hbrown : simple ("The quick".push '-' ++ "Brown Fox") "english" " bro" = true :=
    (htexts _ _ _ _ ['b', 'r', 'o'] '-' (by decide) (by decide)).2
      (.inr (by decide))
  have hfox := (hterms ("The quick".push '-' ++ "Brown Fox") "english" "QUI" " bro" '\u00a0'
    ⟨'Q', by decide, by decide⟩ ⟨'b', by decide, by decide⟩ (by decide)).2 ⟨hquick, hbrown⟩
  exact ⟨hfox, by decide, hblank _ _ _ (List.all_eq_true.1 (by decide))⟩

end TextSearch

end RecordQuery
