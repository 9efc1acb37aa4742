/-!
# Blank characters

Blanks are the characters with the Unicode property White_Space.  `trim` removes them at both ends
of a text and `trimLeft` at its front.
-/

namespace RecordQuery.Text

/-- A character with the property White_Space. -/
def isBlank (c : Char) : Bool :=
  let n := c.toNat
  (9 ≤ n && n ≤ 13) || n == 0x20 || n == 0x85 || n == 0xA0 || n == 0x1680 ||
    (0x2000 ≤ n && n ≤ 0x200A) || n == 0x2028 || n == 0x2029 || n == 0x202F || n == 0x205F ||
    n == 0x3000

/-- The text without the blanks at its front. -/
def trimLeft (cs : List Char) : List Char := cs.dropWhile isBlank

/-- The text without the blanks at its end. -/
def trimRight (cs : List Char) : List Char := (cs.reverse.dropWhile isBlank).reverse

/-- The text without the blanks at either end. -/
def trim (cs : List Char) : List Char := trimRight (trimLeft cs)

/-- A text is blank when every character of it is. -/
def allBlank (cs : List Char) : Bool := cs.all isBlank

@[simp] theorem trimLeft_nil : trimLeft [] = [] := rfl

/-- A trimmed text with a character in front that is not blank is trimmed. -/
theorem trim_cons_trim {c : Char} (hc : isBlank c = false) (cs : List Char) :
    trim (c :: trim cs) = c :: trim cs := by
  have hleft : trimLeft (c :: trim cs) = c :: trim cs :=
    List.dropWhile_cons_of_neg (by simp [hc])
  have hend : ∀ ds : List Char, ((ds.dropWhile isBlank) ++ [c]).dropWhile isBlank =
      ds.dropWhile isBlank ++ [c] := by
    intro ds
    have hhead := List.head?_dropWhile_not isBlank ds
    cases hdrop : ds.dropWhile isBlank with
    | nil => exact List.dropWhile_cons_of_neg (by simp [hc])
    | cons d rest =>
      rw [hdrop] at hhead
      exact List.dropWhile_cons_of_neg (by simpa using hhead)
  unfold trim at hleft ⊢
  rw [hleft]
  unfold trimRight
  rw [List.reverse_cons, List.reverse_reverse, hend, List.reverse_append, List.reverse_singleton,
    List.singleton_append]

/-- A character of core's class of white space is blank. -/
theorem isBlank_of_isWhitespace {c : Char} (h : c.isWhitespace = true) : isBlank c = true := by
  simp only [Char.isWhitespace, Bool.or_eq_true, decide_eq_true_eq] at h
  rcases h with ((rfl | rfl) | rfl) | rfl <;> decide

end RecordQuery.Text
