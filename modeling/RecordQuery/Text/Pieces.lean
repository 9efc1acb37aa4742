/-!
# Pieces of a text

A text is cut into pieces at its separators: `pieces` keeps the empty ones, `words` drops them, and
`joined` writes pieces with a separator between neighbours.  `joined_pieces` says that cutting at
one character loses nothing.
-/

namespace RecordQuery.Text

/-- The pieces of a text between the characters that `sep` picks, empty pieces included. -/
def pieces (sep : Char → Bool) : List Char → List (List Char)
  | [] => [[]]
  | c :: cs =>
    if sep c then [] :: pieces sep cs
    else
      match pieces sep cs with
      | [] => [[c]]
      | p :: ps => (c :: p) :: ps

/-- The pieces of a text that are not empty. -/
def words (sep : Char → Bool) (cs : List Char) : List (List Char) :=
  (pieces sep cs).filter fun p => !p.isEmpty

/-- Pieces written one after the other with `sep` between neighbours. -/
def joined (sep : Char) : List (List Char) → List Char
  | [] => []
  | [p] => p
  | p :: q :: ps => p ++ sep :: joined sep (q :: ps)

theorem pieces_ne_nil (sep : Char → Bool) (cs : List Char) : pieces sep cs ≠ [] := by
  cases cs with
  | nil => simp [pieces]
  | cons c cs =>
    rw [pieces]
    split
    · simp
    · split <;> simp

theorem joined_pieces (sep : Char) (cs : List Char) : joined sep (pieces (· == sep) cs) = cs := by
  induction cs with
  | nil => rfl
  | cons c cs ih =>
    rw [pieces]
    split
    · next h =>
      obtain ⟨p, ps, hp⟩ := List.exists_cons_of_ne_nil (pieces_ne_nil (· == sep) cs)
      rw [hp] at ih ⊢
      simp only [joined, ih, List.nil_append, beq_iff_eq.1 h]
    · split
      · next hp => exact absurd hp (pieces_ne_nil _ _)
      · next p ps hp =>
        rw [hp] at ih
        cases ps with
        | nil => simpa [joined] using ih
        | cons q qs => simpa [joined] using ih

/-- Pieces do not contain the separator. -/
theorem not_mem_of_mem_pieces {sep : Char} {p cs : List Char}
    (h : p ∈ pieces (· == sep) cs) : sep ∉ p := by
  induction cs generalizing p with
  | nil =>
    obtain rfl := List.mem_singleton.1 h
    exact List.not_mem_nil
  | cons c cs ih =>
    rw [pieces] at h
    split at h
    · rcases List.mem_cons.1 h with rfl | hp
      · exact List.not_mem_nil
      · exact ih hp
    · next hc =>
      have hne : sep ≠ c := fun heq => hc (beq_iff_eq.2 heq.symm)
      split at h
      · next hnil => exact absurd hnil (pieces_ne_nil _ _)
      · next q ps hpieces =>
        rw [hpieces] at ih
        rcases List.mem_cons.1 h with rfl | hp
        · exact List.not_mem_cons_of_ne_of_not_mem hne (ih List.mem_cons_self)
        · exact ih (List.mem_cons_of_mem q hp)

/-- A text without separators is one piece. -/
theorem pieces_of_forall {sep : Char → Bool} {cs : List Char} (h : ∀ c ∈ cs, sep c = false) :
    pieces sep cs = [cs] := by
  induction cs with
  | nil => rfl
  | cons c cs ih =>
    obtain ⟨hc, hcs⟩ := List.forall_mem_cons.1 h
    rw [pieces, if_neg (by simp [hc]), ih hcs]

/-- A separator ends the pieces before it and begins those behind it. -/
theorem pieces_append_sep {sep : Char → Bool} {c : Char} (hc : sep c = true) (cs ds : List Char) :
    pieces sep (cs ++ c :: ds) = pieces sep cs ++ pieces sep ds := by
  induction cs with
  | nil => rw [List.nil_append, pieces, pieces, if_pos hc, List.singleton_append]
  | cons d cs ih =>
    rw [List.cons_append, pieces, pieces, ih]
    split
    · rfl
    · obtain ⟨p, ps, hp⟩ := List.exists_cons_of_ne_nil (pieces_ne_nil sep cs)
      rw [hp, List.cons_append, List.cons_append]

theorem pieces_of_not_mem {sep : Char} {p : List Char} (hp : sep ∉ p) :
    pieces (· == sep) p = [p] :=
  pieces_of_forall fun _ hc => beq_eq_false_iff_ne.2 (ne_of_mem_of_not_mem hc hp)

/-- The first piece ends at the first separator. -/
theorem pieces_append_cons {sep : Char} {p : List Char} (hp : sep ∉ p) (cs : List Char) :
    pieces (· == sep) (p ++ sep :: cs) = p :: pieces (· == sep) cs := by
  rw [@pieces_append_sep (· == sep) sep (beq_self_eq_true sep), pieces_of_not_mem hp,
    List.singleton_append]

/-- Pieces that do not contain the separator are found again. -/
theorem pieces_joined {sep : Char} {ps : List (List Char)} (hne : ps ≠ [])
    (h : ∀ p ∈ ps, sep ∉ p) : pieces (· == sep) (joined sep ps) = ps := by
  induction ps with
  | nil => exact absurd rfl hne
  | cons p ps ih =>
    obtain ⟨hp, hps⟩ := List.forall_mem_cons.1 h
    cases ps with
    | nil => exact pieces_of_not_mem hp
    | cons q ps => rw [joined, pieces_append_cons hp, ih (List.cons_ne_nil q ps) hps]

/-- Lists of pieces that are written together have the separator between them. -/
theorem joined_append (sep : Char) {ps qs : List (List Char)} (hps : ps ≠ []) (hqs : qs ≠ []) :
    joined sep (ps ++ qs) = joined sep ps ++ sep :: joined sep qs := by
  induction ps with
  | nil => exact absurd rfl hps
  | cons p ps ih =>
    cases ps with
    | nil =>
      obtain ⟨q, rest, rfl⟩ := List.exists_cons_of_ne_nil hqs
      rfl
    | cons p' ps =>
      rw [List.cons_append, List.cons_append, joined, ← List.cons_append,
        ih (List.cons_ne_nil p' ps), joined, List.append_assoc, List.cons_append]

/-! ### Dotted names -/

/-- The segments of a dotted name. -/
def segments (name : String) : List String :=
  (pieces (· == '.') name.toList).map String.ofList

/-- Segments written with a dot between neighbours. -/
def dotted (names : List String) : String :=
  String.ofList (joined '.' (names.map String.toList))

/-- Every name has a segment, the empty name an empty one. -/
theorem segments_ne_nil (name : String) : segments name ≠ [] := by
  unfold segments
  rw [ne_eq, List.map_eq_nil_iff]
  exact pieces_ne_nil _ _

theorem dotted_segments (name : String) : dotted (segments name) = name := by
  simp only [dotted, segments, List.map_map]
  have h : (String.toList ∘ String.ofList) = id := by
    funext cs
    simp
  rw [h, List.map_id, joined_pieces, String.ofList_toList]

@[simp] theorem dotted_singleton (name : String) : dotted [name] = name := String.ofList_toList

/-- Names that are written together have a dot between them. -/
theorem dotted_append {front back : List String} (hfront : front ≠ []) (hback : back ≠ []) :
    dotted (front ++ back) = dotted front ++ "." ++ dotted back := by
  unfold dotted
  rw [List.map_append, joined_append '.' (mt List.map_eq_nil_iff.1 hfront)
    (mt List.map_eq_nil_iff.1 hback), List.append_cons, String.ofList_append,
    String.ofList_append]

/-- Names without dots are the segments of the dotted name. -/
theorem segments_dotted {names : List String} (hne : names ≠ [])
    (h : ∀ name ∈ names, '.' ∉ name.toList) : segments (dotted names) = names := by
  have hpieces : pieces (· == '.') (joined '.' (names.map String.toList)) =
      names.map String.toList := by
    refine pieces_joined (mt List.map_eq_nil_iff.1 hne) ?_
    intro p hp
    obtain ⟨name, hname, rfl⟩ := List.mem_map.1 hp
    exact h name hname
  unfold segments dotted
  rw [String.toList_ofList, hpieces, List.map_map]
  have hself : (String.ofList ∘ String.toList) = id := by
    funext name
    exact String.ofList_toList
  rw [hself, List.map_id]

/-- The segments of a name have no dots. -/
theorem not_mem_of_mem_segments {name segment : String} (h : segment ∈ segments name) :
    '.' ∉ segment.toList := by
  obtain ⟨p, hp, rfl⟩ := List.mem_map.1 h
  rw [String.toList_ofList]
  exact not_mem_of_mem_pieces hp

/-- The segments of a name are the names without dots that it is written with. -/
theorem segments_eq_iff {name : String} {names : List String} :
    segments name = names ↔
      names ≠ [] ∧ (∀ segment ∈ names, '.' ∉ segment.toList) ∧ dotted names = name := by
  constructor
  · rintro rfl
    exact ⟨segments_ne_nil name, fun _ => not_mem_of_mem_segments, dotted_segments name⟩
  · rintro ⟨hne, hdots, rfl⟩
    exact segments_dotted hne hdots

end RecordQuery.Text
