import Mathlib
import RecordQuery.Proofs.Identifiers
import RecordQuery.Text.Ascii

/-!
# Constants

Constants are made of names.  Not every name makes one: a field that is renamed to anything but an
identifier, hyphens read as underscores, stops the generator, although its attributes can be read
(`Declaration.answers_iff`).  And constants forget how a name tells its words apart
(`constantOf_eq_iff`), so that distinct names may make one constant
(`Declaration.constants_nodup_iff`).
-/

namespace RecordQuery

/-! ### Spelling -/

namespace Text

/-- Two names agree, with their words told apart by underscores, up to the case of ASCII letters. -/
def SpelledAlike (a b : String) : Prop :=
  foldAscii (underscored (parted false a.toList)) = foldAscii (underscored (parted false b.toList))

instance (a b : String) : Decidable (SpelledAlike a b) :=
  inferInstanceAs (Decidable (_ = _))

/-- A name without capitals and hyphens. -/
def IsPlain (name : String) : Prop := ∀ c ∈ name.toList, isUppercase c = false ∧ c ≠ '-'

/-- What is no capital stays as it is without case. -/
theorem toLower_of_not_isUppercase {c : Char} (h : isUppercase c = false) : c.toLower = c := by
  apply Char.toLower_eq_of_not_isUpper
  by_cases hascii : c.toNat < 128
  · rw [← isUppercase_eq_isUpper hascii, h]
    exact Bool.false_ne_true
  · intro hupper
    simp only [Char.isUpper, UInt32.le_iff_toNat_le, decide_eq_true_eq] at hupper
    have hhigh : c.toNat ≤ 90 := hupper.2
    omega

/-- A name in ASCII is plain when it has none of the capitals from `A` to `Z` and no hyphen. -/
theorem IsPlain.of_ascii {name : String}
    (h : (name.toList.all fun c => c.toNat < 128 && !c.isUpper && c != '-') = true) :
    IsPlain name := by
  intro c hc
  have hplain := List.all_eq_true.1 h c hc
  simp only [Bool.and_eq_true, decide_eq_true_eq, Bool.not_eq_true', bne_iff_ne] at hplain
  obtain ⟨⟨hascii, hupper⟩, hhyphen⟩ := hplain
  exact ⟨(isUppercase_eq_isUpper hascii).trans hupper, hhyphen⟩

/-- Nothing is put into a text without capitals. -/
theorem parted_of_forall {cs : List Char} (h : ∀ c ∈ cs, isUppercase c = false)
    (afterSmall : Bool) : parted afterSmall cs = cs := by
  induction cs generalizing afterSmall with
  | nil => rfl
  | cons c cs ih =>
    obtain ⟨hc, hcs⟩ := List.forall_mem_cons.1 h
    rw [parted, hc, Bool.and_false, if_neg Bool.false_ne_true, ih hcs]

/-- The spelling of a name without capitals and hyphens is the name itself. -/
theorem IsPlain.spelling {name : String} (h : IsPlain name) :
    foldAscii (underscored (parted false name.toList)) = name.toList := by
  rw [parted_of_forall fun c hc => (h c hc).1, underscored_of_forall fun c hc => (h c hc).2]
  exact (List.map_congr_left fun c hc => toLower_of_not_isUppercase (h c hc).1).trans
    (List.map_id _)

/-- Names without capitals and hyphens are spelled alike only when they are equal. -/
theorem IsPlain.eq_of_spelledAlike {a b : String} (ha : IsPlain a) (hb : IsPlain b)
    (h : SpelledAlike a b) : a = b := by
  unfold SpelledAlike at h
  rw [ha.spelling, hb.spelling] at h
  exact String.toList_injective h

/-- Texts agree in capitals exactly when they agree in small letters. -/
theorem map_toUpper_eq_iff {as bs : List Char} :
    as.map Char.toUpper = bs.map Char.toUpper ↔ foldAscii as = foldAscii bs := by
  have hfold : ∀ cs : List Char, foldAscii (cs.map Char.toUpper) = foldAscii cs := by
    intro cs
    simp [foldAscii]
  have hraise : ∀ cs : List Char, (foldAscii cs).map Char.toUpper = cs.map Char.toUpper := by
    intro cs
    simp [foldAscii]
  constructor
  · intro h
    rw [← hfold as, h, hfold bs]
  · intro h
    rw [← hraise as, h, hraise bs]

end Text

/-- Names make one constant exactly when they are spelled alike. -/
theorem constantOf_eq_iff {a b : String} : constantOf a = constantOf b ↔ Text.SpelledAlike a b := by
  rw [← String.toList_inj, toList_constantOf, toList_constantOf, Text.map_toUpper_eq_iff]
  rfl

namespace Declaration

variable {d : Declaration} {tables : RecordTables}

/-! ### Declarations that stop the generator -/

/-- The generator answers: with what it generates, or with an error and its message. -/
def Answers (d : Declaration) : Prop :=
  (∃ derived, d.derive = .ok derived) ∨ ∃ e, d.derive = .error e ∧ e.IsReported

/-- The attributes of the type and of its fields can be read. -/
structure IsReadable (d : Declaration) : Prop where
  type : ∀ a ∈ d.attributes, a.IsAccepted
  fields : ∀ f ∈ d.fields, f.IsAccepted

/-- The generator answers when it does not stop at a constant. -/
theorem answers_iff_ne : d.Answers ↔ ∀ constant, d.derive ≠ .error (.invalidConstant constant) := by
  constructor
  · rintro (⟨derived, h⟩ | ⟨e, h, hreported⟩) constant hstop
    · rw [h] at hstop
      cases hstop
    · rw [h] at hstop
      exact hreported constant (Except.error.inj hstop)
  · intro h
    rcases hderive : d.derive with e | derived
    · exact .inr ⟨e, hderive, fun constant he => h constant (he ▸ hderive)⟩
    · exact .inl ⟨derived, hderive⟩

/-- A declaration that can be read is answered when it is generic, and otherwise when the constants
of its fields are identifiers. -/
theorem answers_iff_nameable (readable : d.IsReadable) :
    d.Answers ↔ d.generic = true ∨ ∀ f ∈ d.fields, f.IsNameable := by
  constructor
  · intro hanswers
    by_contra hstop
    obtain ⟨hspecific, hunnamed⟩ := not_or.1 hstop
    simp only [not_forall] at hunnamed
    obtain ⟨f, hf, hname⟩ := hunnamed
    have hderive := derive_named (Bool.eq_false_iff.2 hspecific) readable.type (shape_of_mem hf)
    rcases hanswers with ⟨derived, h⟩ | ⟨e, h, hreported⟩
    · rw [hderive] at h
      obtain ⟨exposed, hexposed, -⟩ := Outcome.map_eq_ok.1 h
      exact hname ((mapM_expose_eq_ok_iff.1 hexposed).1 f hf).2
    · rw [hderive, Outcome.map_eq_error] at h
      obtain ⟨g, hg, herror⟩ := Outcome.exists_mem_of_mapM_error h
      exact DeclaredField.not_isReported_of_expose_eq_error (readable.fields g hg) herror hreported
  · rw [answers_iff_ne]
    rintro hall constant hstop
    rcases hall with hgeneric | hall
    · rw [derive_generic hgeneric] at hstop
      cases hstop
    · obtain hreported | ⟨f, hf, herror⟩ := raises_derive d _ hstop
      · exact hreported constant rfl
      · rw [DeclaredField.expose_eq_ok_iff.2 ⟨⟨readable.fields f hf, hall f hf⟩, rfl⟩] at herror
        cases herror

/-- A declaration that can be read, and whose fields have identifiers for names, is answered unless
a field that is not left out is given a name that is no identifier, hyphens read as underscores.
Generic types are answered in any case. -/
theorem answers_iff (readable : d.IsReadable)
    (named : ∀ f ∈ d.fields, Text.isIdentifier (unmarked f.name.toList) = true) :
    d.Answers ↔ d.generic = true ∨ ∀ f ∈ d.shownFields, ∀ name, f.rename? = some name →
      Text.isIdentifier (Text.underscored name.toList) = true := by
  rw [answers_iff_nameable readable]
  refine or_congr_right ⟨fun h f hf => ?_, fun h f hf => ?_⟩
  · obtain ⟨hmem, hshown⟩ := List.mem_filter.1 hf
    exact (DeclaredField.isNameable_iff (named f hmem)).1 (h f hmem) hshown
  · apply (DeclaredField.isNameable_iff (named f hf)).2
    intro hshown
    exact h f (List.mem_filter.2 ⟨hf, hshown⟩)

/-- A ticket with a hyphen and a key word among its names.  The name of what is left out is not
asked for. -/
def ticket : Declaration where
  name := "Ticket"
  shape := .named [⟨"created", "DateTime<Utc>", [.foreign, .list [.rename "created-at"]]⟩,
    ⟨"r#type", "String", []⟩, ⟨"token", "String", [.list [.rename "api token"], .list [.skip]]⟩]

/-- Tickets are answered. -/
theorem answers_ticket : ticket.IsReadable ∧
    (∀ f ∈ ticket.fields, Text.isIdentifier (unmarked f.name.toList) = true) ∧
      ticket.Answers := by
  have readable : ticket.IsReadable := ⟨by decide, by decide⟩
  have named : ∀ f ∈ ticket.fields, Text.isIdentifier (unmarked f.name.toList) = true := by
    decide
  refine ⟨readable, named, (answers_iff readable named).2 (.inr ?_)⟩
  have hrenames : ∀ f ∈ ticket.shownFields, f.rename? = some "created-at" ∨ f.rename? = none := by
    decide
  intro f hf name hname
  rcases hrenames f hf with hrename | hrename
  · obtain rfl := Option.some.inj (hrename.symm.trans hname)
    decide +kernel
  · rw [hrename] at hname
    cases hname

/-- A task whose text is given a name of two words. -/
def task : Declaration where
  name := "Task"
  shape := .named [⟨"text", "String", [.list [.rename "to do"]]⟩]

/-- A name of two words may stand in an attribute, and stops the generator. -/
theorem not_answers_task : task.IsReadable ∧
    (∀ f ∈ task.fields, Text.isIdentifier (unmarked f.name.toList) = true) ∧
      task.derive = .error (.invalidConstant "TO DO") ∧ ¬ task.Answers := by
  have hstop : task.derive = .error (.invalidConstant "TO DO") := by decide +kernel
  exact ⟨⟨by decide, by decide⟩, by decide, hstop, fun h => answers_iff_ne.1 h _ hstop⟩

/-! ### Constants that clash -/

/-- The constants of a type stand for the names of its fields, one for each.  When these names are
distinct, the constants are so too unless two of the names are spelled alike, which names without
capitals and hyphens never are. -/
theorem constants_nodup_iff (h : d.derive = .ok (.record tables))
    (distinct : (d.shownFields.map DeclaredField.queried).Nodup) :
    tables.constants.map Prod.snd = d.shownFields.map DeclaredField.queried ∧
      ((tables.constants.map Prod.fst).Nodup ↔ ∀ f ∈ d.shownFields, ∀ g ∈ d.shownFields,
        Text.SpelledAlike f.queried g.queried → f.queried = g.queried) ∧
      ((∀ f ∈ d.shownFields, Text.IsPlain f.queried) → (tables.constants.map Prod.fst).Nodup) := by
  obtain rfl := tables_eq h
  have hnames : (d.shownFields.map DeclaredField.queried).map constantOf =
      ((d.shownFields.map DeclaredField.exposed).map fun f => (constantOf f.name, f.name)).map
        Prod.fst := by
    simp only [List.map_map]
    rfl
  have hiff : ((d.shownFields.map DeclaredField.queried).map constantOf).Nodup ↔
      ∀ f ∈ d.shownFields, ∀ g ∈ d.shownFields,
        Text.SpelledAlike f.queried g.queried → f.queried = g.queried := by
    rw [List.nodup_map_iff_inj_on distinct]
    simp only [List.forall_mem_map, constantOf_eq_iff]
  rw [hnames] at hiff
  refine ⟨?_, hiff, fun hplain => hiff.2 ?_⟩
  · unfold recordTables
    simp only [List.map_map]
    rfl
  · intro f hf g hg
    exact (hplain f hf).eq_of_spelledAlike (hplain g hg)

/-- A reading, known under names without capitals and hyphens. -/
def reading : Declaration where
  name := "Reading"
  shape := .named [⟨"read_at", "DateTime<Utc>", []⟩, ⟨"celsius", "f64", [.list [.rename "heat"]]⟩,
    ⟨"rawValue", "f64", [.list [.skip]]⟩]

/-- The tables of a reading. -/
def readingTables : RecordTables :=
  recordTables "Reading" [⟨"read_at", "read_at", "DateTime<Utc>"⟩, ⟨"heat", "celsius", "f64"⟩]

/-- The constants of a reading are distinct. -/
theorem constants_nodup_reading : reading.derive = .ok (.record readingTables) ∧
    (reading.shownFields.map DeclaredField.queried).Nodup ∧
      (readingTables.constants.map Prod.fst).Nodup := by
  have hderive : reading.derive = .ok (.record readingTables) :=
    derive_of_isIdentifier rfl (by decide) rfl (by decide +kernel)
  have distinct : (reading.shownFields.map DeclaredField.queried).Nodup := by decide
  have hascii : ∀ f ∈ reading.shownFields, (f.queried.toList.all fun c =>
      c.toNat < 128 && !c.isUpper && c != '-') = true := by decide
  obtain ⟨-, -, hplain⟩ := constants_nodup_iff hderive distinct
  exact ⟨hderive, distinct, hplain fun f hf => .of_ascii (hascii f hf)⟩

/-- An event that ends twice. -/
def event : Declaration where
  name := "Event"
  shape := .named [⟨"endAt", "i64", []⟩, ⟨"end_at", "i64", []⟩]

/-- The tables of an event. -/
def eventTables : RecordTables :=
  recordTables "Event" [⟨"endAt", "endAt", "i64"⟩, ⟨"end_at", "end_at", "i64"⟩]

/-- The two ends of an event have distinct names and one constant. -/
theorem not_constants_nodup_event : event.derive = .ok (.record eventTables) ∧
    (event.shownFields.map DeclaredField.queried).Nodup ∧
      eventTables.constants = [("END_AT", "endAt"), ("END_AT", "end_at")] ∧
      ¬ (eventTables.constants.map Prod.fst).Nodup := by
  have hderive : event.derive = .ok (.record eventTables) :=
    derive_of_isIdentifier rfl (by decide) rfl (by decide +kernel)
  have hconstants : eventTables.constants = [("END_AT", "endAt"), ("END_AT", "end_at")] := by
    decide
  refine ⟨hderive, by decide, hconstants, ?_⟩
  rw [hconstants]
  simp

end Declaration

end RecordQuery
