import RecordQuery.Json.Document

/-!
# The meaning of documents

`Document.meaning? number` is the value of a document whose number literals stand for the numbers
that `number` gives.  It has no limit of nesting and knows no order of reading.  The reader's value
is the meaning of every document that stays within the limits of reading: containers nested no
deeper than the reader goes, and literals that the reader takes for the same numbers
(`Document.Within`).
-/

namespace RecordQuery.Document

/-! ### Meaning -/

mutual

/-- The value of a document whose literals stand for the numbers of `number`.  Of two members of an
object under one key the later one counts. -/
def meaning? (number : NumberLiteral → Option Numeral) : Document → Option Json
  | .null => some .null
  | .bool b => some (.bool b)
  | .number l => (number l).map .number
  | .string s => s.map .string
  | .array items => (itemMeanings? number items).map .array
  | .object members => (memberMeanings? number members).map Json.ofMembers
  | .broken => none

/-- The meanings of items. -/
def itemMeanings? (number : NumberLiteral → Option Numeral) : List Document → Option (List Json)
  | [] => some []
  | d :: ds =>
    match meaning? number d with
    | none => none
    | some j => (itemMeanings? number ds).map (j :: ·)

/-- The meanings of members under their keys. -/
def memberMeanings? (number : NumberLiteral → Option Numeral) :
    List (Option String × Document) → Option (List (String × Json))
  | [] => some []
  | (none, _) :: _ => none
  | (some key, d) :: ms =>
    match meaning? number d with
    | none => none
    | some j => (memberMeanings? number ms).map ((key, j) :: ·)

end

variable {number : NumberLiteral → Option Numeral} {levels : Nat} {d : Document}

/-- What a document means has its form, and parts that its parts mean. -/
theorem meaning?_eq_some_iff {j : Json} : d.meaning? number = some j ↔
    match j with
    | .null => d = .null
    | .bool b => d = .bool b
    | .number n => ∃ l, d = .number l ∧ number l = some n
    | .string s => d = .string (some s)
    | .array js => ∃ items, d = .array items ∧ itemMeanings? number items = some js
    | .object _ => ∃ members, d = .object members ∧
        (memberMeanings? number members).map Json.ofMembers = some j := by
  cases d <;> cases j <;> simp [meaning?, Json.ofMembers]

/-- Only null means null. -/
theorem meaning?_eq_null : d.meaning? number = some .null ↔ d = .null := meaning?_eq_some_iff

/-- Only a truth value means one. -/
theorem meaning?_eq_bool {b : Bool} : d.meaning? number = some (.bool b) ↔ d = .bool b :=
  meaning?_eq_some_iff

/-- Only a string without lone surrogates means a string. -/
theorem meaning?_eq_string {s : String} :
    d.meaning? number = some (.string s) ↔ d = .string (some s) :=
  meaning?_eq_some_iff

/-- Only a literal of a number means this number. -/
theorem meaning?_eq_number {n : Numeral} :
    d.meaning? number = some (.number n) ↔ ∃ l, d = .number l ∧ number l = some n :=
  meaning?_eq_some_iff

/-- Only an array means an array, when its items mean the items. -/
theorem meaning?_eq_array {js : List Json} :
    d.meaning? number = some (.array js) ↔
      ∃ items, d = .array items ∧ itemMeanings? number items = some js :=
  meaning?_eq_some_iff

/-- Items written one by one mean what they were written for. -/
theorem itemMeanings?_map {write : Json → Document} {js : List Json}
    (h : ∀ j ∈ js, (write j).meaning? number = some j) :
    itemMeanings? number (js.map write) = some js := by
  induction js with
  | nil => rfl
  | cons j js ih =>
    rw [List.map_cons, itemMeanings?, h j List.mem_cons_self,
      ih fun other hother => h other (List.mem_cons_of_mem j hother)]
    rfl

/-! ### Limits -/

mutual

/-- How many containers are nested inside each other. -/
def depth : Document → Nat
  | .array items => itemsDepth items + 1
  | .object members => membersDepth members + 1
  | _ => 0

/-- The greatest depth of items. -/
def itemsDepth : List Document → Nat
  | [] => 0
  | d :: ds => max (depth d) (itemsDepth ds)

/-- The greatest depth of members. -/
def membersDepth : List (Option String × Document) → Nat
  | [] => 0
  | (_, d) :: ms => max (depth d) (membersDepth ms)

end

mutual

/-- The number literals of a document. -/
def literals : Document → List NumberLiteral
  | .number l => [l]
  | .array items => itemsLiterals items
  | .object members => membersLiterals members
  | _ => []

/-- The number literals of items. -/
def itemsLiterals : List Document → List NumberLiteral
  | [] => []
  | d :: ds => literals d ++ itemsLiterals ds

/-- The number literals of members. -/
def membersLiterals : List (Option String × Document) → List NumberLiteral
  | [] => []
  | (_, d) :: ms => literals d ++ membersLiterals ms

end

/-- A document inside which at most `levels` containers are nested, itself among them, and whose
literals are read as the numbers of `number`. -/
structure Within (number : NumberLiteral → Option Numeral) (levels : Nat) (d : Document) :
    Prop where
  depth_le : d.depth ≤ levels
  numeral_eq : ∀ l ∈ d.literals, l.numeral? = number l

theorem depth_le_itemsDepth {items : List Document} (h : d ∈ items) :
    d.depth ≤ itemsDepth items := by
  induction items with
  | nil => cases h
  | cons first rest ih =>
    rw [itemsDepth]
    rcases List.mem_cons.1 h with rfl | h
    · exact Nat.le_max_left _ _
    · exact Nat.le_trans (ih h) (Nat.le_max_right _ _)

theorem depth_le_membersDepth {member : Option String × Document}
    {members : List (Option String × Document)} (h : member ∈ members) :
    member.2.depth ≤ membersDepth members := by
  induction members with
  | nil => cases h
  | cons first rest ih =>
    rw [membersDepth]
    rcases List.mem_cons.1 h with rfl | h
    · exact Nat.le_max_left _ _
    · exact Nat.le_trans (ih h) (Nat.le_max_right _ _)

theorem mem_itemsLiterals {items : List Document} (h : d ∈ items)
    {l : NumberLiteral} (hl : l ∈ d.literals) : l ∈ itemsLiterals items := by
  induction items with
  | nil => cases h
  | cons first rest ih =>
    rw [itemsLiterals, List.mem_append]
    rcases List.mem_cons.1 h with rfl | h
    · exact .inl hl
    · exact .inr (ih h)

theorem mem_membersLiterals {member : Option String × Document}
    {members : List (Option String × Document)} (h : member ∈ members) {l : NumberLiteral}
    (hl : l ∈ member.2.literals) : l ∈ membersLiterals members := by
  induction members with
  | nil => cases h
  | cons first rest ih =>
    rw [membersLiterals, List.mem_append]
    rcases List.mem_cons.1 h with rfl | h
    · exact .inl hl
    · exact .inr (ih h)

/-- An array within limits can be entered, and its items are within what is left of them. -/
theorem Within.array {items : List Document} (h : (Document.array items).Within number levels) :
    levels ≠ 0 ∧ ∀ d ∈ items, d.Within number (levels - 1) := by
  have hdepth : itemsDepth items + 1 ≤ levels := h.depth_le
  refine ⟨by omega, fun d hd => ⟨?_, fun l hl => h.numeral_eq l (mem_itemsLiterals hd hl)⟩⟩
  have hle := depth_le_itemsDepth hd
  omega

/-- An object within limits can be entered, and its members are within what is left of them. -/
theorem Within.object {members : List (Option String × Document)}
    (h : (Document.object members).Within number levels) :
    levels ≠ 0 ∧ ∀ member ∈ members, member.2.Within number (levels - 1) := by
  have hdepth : membersDepth members + 1 ≤ levels := h.depth_le
  refine ⟨by omega, fun member hmember =>
    ⟨?_, fun l hl => h.numeral_eq l (mem_membersLiterals hmember hl)⟩⟩
  have hle := depth_le_membersDepth hmember
  omega

/-! ### The reader's value -/

mutual

/-- Within its limits the reader gives the meaning of a document. -/
theorem value?_eq_meaning? : ∀ {levels : Nat} {d : Document}, d.Within number levels →
    value? levels d = meaning? number d
  | _, .null, _ | _, .bool _, _ | _, .string _, _ | _, .broken, _ => rfl
  | _, .number l, h => by
    have hl := h.numeral_eq l (List.mem_singleton_self l)
    rw [value?, meaning?, hl]
  | _, .array items, h => by
    obtain ⟨hlevels, hitems⟩ := h.array
    rw [value?, meaning?, if_neg hlevels, itemValues?_eq_itemMeanings? hitems]
  | _, .object members, h => by
    obtain ⟨hlevels, hmembers⟩ := h.object
    rw [value?, meaning?, if_neg hlevels, memberValues?_eq_memberMeanings? [] hmembers,
      Option.map_map]
    rfl

/-- Within its limits the reader gives the meanings of items. -/
theorem itemValues?_eq_itemMeanings? : ∀ {levels : Nat} {items : List Document},
    (∀ d ∈ items, d.Within number levels) → itemValues? levels items = itemMeanings? number items
  | _, [], _ => rfl
  | _, d :: ds, h => by
    have hfirst := value?_eq_meaning? (h d List.mem_cons_self)
    have hrest := itemValues?_eq_itemMeanings? fun x hx => h x (List.mem_cons_of_mem d hx)
    rw [itemValues?, itemMeanings?, hfirst]
    rcases meaning? number d with - | j
    · rfl
    · simp only [hrest]

/-- Within its limits the reader puts the meanings of members in one after the other. -/
theorem memberValues?_eq_memberMeanings? : ∀ {levels : Nat} (acc : List (String × Json))
    {members : List (Option String × Document)}, (∀ m ∈ members, m.2.Within number levels) →
    memberValues? levels acc members = (memberMeanings? number members).map fun ms =>
      ms.foldl (fun acc (key, value) => insertMember key value acc) acc
  | _, _, [], _ => rfl
  | _, _, (none, _) :: _, _ => rfl
  | _, acc, (some key, d) :: ms, h => by
    have hfirst := value?_eq_meaning? (h (some key, d) List.mem_cons_self)
    rw [memberValues?, memberMeanings?, hfirst]
    rcases meaning? number d with - | j
    · rfl
    · have hrest := memberValues?_eq_memberMeanings? (insertMember key j acc)
        fun x hx => h x (List.mem_cons_of_mem (some key, d) hx)
      simp only [hrest, Option.map_map]
      rfl

end

end RecordQuery.Document
