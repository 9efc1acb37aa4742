import RecordQuery.Proofs.Derivation

/-!
# Constants that are identifiers

The constant of a name is made in two steps: an underscore is put in front of each capital that
follows a small letter, and then hyphens become underscores and small letters of ASCII capitals
(`constantChars_eq`).  Capitals and underscores stand in identifiers wherever small letters do, so
that a constant is an identifier when its name is one, hyphens read as underscores
(`isIdentifier_constantOf`).
-/

namespace RecordQuery

/-! ### Characters -/

namespace Text

/-- Characters other than small letters of ASCII are their own capitals. -/
theorem toUpper_of_not_small {c : Char} (h : c.toNat < 97 ∨ 122 < c.toNat) : c.toUpper = c := by
  unfold Char.toUpper
  refine dif_neg ?_
  rw [UInt32.le_iff_toNat_le, UInt32.le_iff_toNat_le]
  rintro ⟨hlow, hhigh⟩
  have hlow : 97 ≤ c.toNat := hlow
  have hhigh : c.toNat ≤ 122 := hhigh
  omega

/-- A fact about the capitals in ASCII is one about the small letters. -/
theorem toUpper_congr {α : Type} (f : Char → α)
    (h : ∀ n < 26, f (Char.ofNat (97 + n)).toUpper = f (Char.ofNat (97 + n))) (c : Char) :
    f c.toUpper = f c := by
  by_cases hc : c.toNat < 97 ∨ 122 < c.toNat
  · rw [toUpper_of_not_small hc]
  · have hsum : 97 + (c.toNat - 97) = c.toNat := by omega
    have hsmall := h (c.toNat - 97) (by omega)
    rwa [hsum, Char.ofNat_toNat] at hsmall

theorem startsIdentifier_toUpper (c : Char) :
    startsIdentifier c.toUpper = startsIdentifier c :=
  toUpper_congr startsIdentifier (by decide) c

theorem continuesIdentifier_toUpper (c : Char) :
    continuesIdentifier c.toUpper = continuesIdentifier c :=
  toUpper_congr continuesIdentifier (by decide) c

/-- The table of capitals has those of ASCII, and nothing else of it. -/
theorem uppercase_ascii : (0x41, 0x5A, 1) ∈ uppercase ∧
    ∀ r ∈ uppercase, 0x41 ≤ r.1 ∧ (r.2.1 ≤ 0x5A ∨ 0x7F < r.1) := by
  decide +kernel

/-- A capital is one of ASCII, or stands behind ASCII. -/
theorem ascii_of_isUppercase {c : Char} (h : isUppercase c = true) :
    65 ≤ c.toNat ∧ (c.toNat ≤ 90 ∨ 127 < c.toNat) := by
  obtain ⟨⟨first, last, step⟩, hr, hrange⟩ := List.any_eq_true.1 h
  obtain ⟨hlow, hhigh⟩ := uppercase_ascii.2 _ hr
  simp only [Bool.and_eq_true, decide_eq_true_eq] at hrange hlow hhigh
  omega

/-- In ASCII, the capitals are those from `A` to `Z`. -/
theorem isUppercase_eq_isUpper {c : Char} (h : c.toNat < 128) : isUppercase c = c.isUpper := by
  have hupper : c.isUpper = true ↔ 65 ≤ c.toNat ∧ c.toNat ≤ 90 := decide_eq_true_iff
  rw [Bool.eq_iff_iff, hupper]
  constructor
  · intro hc
    have hrange := ascii_of_isUppercase hc
    omega
  · intro hrange
    refine List.any_eq_true.2 ⟨_, uppercase_ascii.1, ?_⟩
    simpa [Nat.mod_one] using hrange

theorem ne_hyphen_of_isUppercase {c : Char} (h : isUppercase c = true) : c ≠ '-' := by
  rintro rfl
  exact absurd (ascii_of_isUppercase h).1 (by decide)

/-- Capitals stay as they are. -/
theorem toUpper_of_isUppercase {c : Char} (h : isUppercase c = true) : c.toUpper = c := by
  have hrange := ascii_of_isUppercase h
  exact toUpper_of_not_small (by omega)

/-! ### Spelling -/

/-- The text with an underscore for each hyphen. -/
def underscored (cs : List Char) : List Char := cs.map fun c => if c = '-' then '_' else c

/-- The text with an underscore in front of each capital that follows a small letter.  All that is
no capital, underscore or hyphen counts as a small letter. -/
def parted (afterSmall : Bool) : List Char → List Char
  | [] => []
  | c :: cs =>
    let rest := c :: parted (!isUppercase c && c != '_' && c != '-') cs
    if afterSmall && isUppercase c then '_' :: rest else rest

/-- A text without hyphens stays as it is. -/
theorem underscored_of_forall {cs : List Char} (h : ∀ c ∈ cs, c ≠ '-') : underscored cs = cs :=
  (List.map_congr_left fun c hc => if_neg (h c hc)).trans (List.map_id cs)

/-! ### Identifiers -/

/-- A hyphen has no place in an identifier, and an underscore may stand behind its start. -/
theorem identifier_marks : startsIdentifier '-' = false ∧ continuesIdentifier '-' = false ∧
    continuesIdentifier '_' = true := by
  decide +kernel

/-- An identifier has no hyphens. -/
theorem underscored_of_isIdentifier {cs : List Char} (h : isIdentifier cs = true) :
    underscored cs = cs := by
  apply underscored_of_forall
  rcases cs with _ | ⟨c, cs⟩
  · cases h
  · obtain ⟨hstart, hrest⟩ := Bool.and_eq_true_iff.1 h
    refine List.forall_mem_cons.2 ⟨?_, fun d hd => ?_⟩
    · rintro rfl
      rw [identifier_marks.1] at hstart
      cases hstart
    · rintro rfl
      have hhyphen := List.all_eq_true.1 hrest '-' hd
      rw [identifier_marks.2.1] at hhyphen
      cases hhyphen

/-- Capitals make an identifier of what is one. -/
theorem isIdentifier_map_toUpper (cs : List Char) :
    isIdentifier (cs.map Char.toUpper) = isIdentifier cs := by
  rcases cs with _ | ⟨c, cs⟩
  · rfl
  · rw [List.map_cons, isIdentifier, isIdentifier, startsIdentifier_toUpper, List.all_map]
    congr 2
    funext d
    exact continuesIdentifier_toUpper d

/-- What is put into a text may stand in an identifier. -/
theorem all_continuesIdentifier_parted (afterSmall : Bool) (cs : List Char) :
    (underscored (parted afterSmall cs)).all continuesIdentifier =
      (underscored cs).all continuesIdentifier := by
  have hunderscore := identifier_marks.2.2
  induction cs generalizing afterSmall with
  | nil => rfl
  | cons c cs ih =>
    unfold underscored at ih ⊢
    rw [parted]
    split
    · rw [List.map_cons, List.map_cons, List.map_cons, List.all_cons, List.all_cons, List.all_cons,
        ih, if_neg (by decide), hunderscore, Bool.true_and]
    · rw [List.map_cons, List.map_cons, List.all_cons, List.all_cons, ih]

/-- A text with its words told apart is an identifier when the text is one. -/
theorem isIdentifier_parted (cs : List Char) :
    isIdentifier (underscored (parted false cs)) = isIdentifier (underscored cs) := by
  rcases cs with _ | ⟨c, cs⟩
  · rfl
  · rw [parted, Bool.false_and, if_neg Bool.false_ne_true]
    have hrest := all_continuesIdentifier_parted (!isUppercase c && c != '_' && c != '-') cs
    unfold underscored at hrest ⊢
    rw [List.map_cons, List.map_cons, isIdentifier, isIdentifier, hrest]

end Text

/-! ### The constant of a name -/

/-- A constant is the spelling of its name in capitals. -/
theorem constantChars_eq (afterSmall : Bool) (cs : List Char) :
    constantChars afterSmall cs =
      (Text.underscored (Text.parted afterSmall cs)).map Char.toUpper := by
  have hunderscore : Char.toUpper '_' = '_' := by decide
  induction cs generalizing afterSmall with
  | nil => rfl
  | cons c cs ih =>
    unfold Text.underscored at ih ⊢
    rw [constantChars, Text.parted]
    by_cases hupper : Text.isUppercase c = true
    · have hc := Text.toUpper_of_isUppercase hupper
      have hhyphen := Text.ne_hyphen_of_isUppercase hupper
      rcases afterSmall with _ | _
      all_goals simp [hupper, hc, hhyphen, hunderscore, ih]
    · by_cases hjoint : c = '_' ∨ c = '-'
      · rcases hjoint with rfl | rfl
        all_goals simp [hupper, hunderscore, ih]
      · obtain ⟨hline, hhyphen⟩ := not_or.1 hjoint
        have hsmall : (c != '_' && c != '-') = true := by simp [hline, hhyphen]
        simp [hupper, hline, hhyphen, hsmall, ih]

/-- The characters of a constant. -/
theorem toList_constantOf (name : String) : (constantOf name).toList =
    (Text.underscored (Text.parted false name.toList)).map Char.toUpper := by
  rw [constantOf, String.toList_ofList, constantChars_eq]

/-- A constant is an identifier exactly when its name is one, hyphens read as underscores. -/
theorem isIdentifier_constantOf (name : String) : Text.isIdentifier (constantOf name).toList =
    Text.isIdentifier (Text.underscored name.toList) := by
  rw [toList_constantOf, Text.isIdentifier_map_toUpper, Text.isIdentifier_parted]

/-- A field whose own name is an identifier, marks aside, can be named unless it is given a name
that is none, hyphens read as underscores. -/
theorem DeclaredField.isNameable_iff {f : DeclaredField}
    (named : Text.isIdentifier (unmarked f.name.toList) = true) :
    f.IsNameable ↔ f.isShown = true → ∀ name, f.rename? = some name →
      Text.isIdentifier (Text.underscored name.toList) = true := by
  unfold IsNameable queried
  rw [isIdentifier_constantOf]
  refine imp_congr_right fun _ => ?_
  rcases f.rename? with _ | given
  · rw [Option.getD_none, String.toList_ofList, Text.underscored_of_isIdentifier named]
    exact iff_of_true named nofun
  · rw [Option.getD_some]
    exact ⟨fun h name hname => Option.some.inj hname ▸ h, fun h => h given rfl⟩

/-- A field can be named when its name in queries is an identifier, hyphens read as underscores. -/
theorem DeclaredField.isNameable_of_isIdentifier {f : DeclaredField}
    (h : Text.isIdentifier (Text.underscored f.queried.toList) = true) : f.IsNameable := by
  rw [← isIdentifier_constantOf] at h
  exact fun _ => h

/-- Tables are generated for a type with named fields that is not generic, when all attributes can
be read and the names of all fields are identifiers, hyphens read as underscores. -/
theorem Declaration.derive_of_isIdentifier {d : Declaration} (specific : d.generic = false)
    (accepted : ∀ a ∈ d.attributes, a.IsAccepted) (shape : d.shape = .named d.fields)
    (fields : ∀ f ∈ d.fields,
      f.IsAccepted ∧ Text.isIdentifier (Text.underscored f.queried.toList) = true) :
    d.derive =
      .ok (.record (recordTables d.entityName (d.shownFields.map DeclaredField.exposed))) := by
  apply derive_eq_record specific accepted shape
  intro f hf
  obtain ⟨haccepted, hnamed⟩ := fields f hf
  exact ⟨haccepted, DeclaredField.isNameable_of_isIdentifier hnamed⟩

end RecordQuery
