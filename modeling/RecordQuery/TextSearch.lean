import RecordQuery.Text.Blank
import RecordQuery.Text.LowerCase
import RecordQuery.Text.Pieces
import RecordQuery.Text.Property.Alphanumeric

/-!
# Full-text search

A search decides whether a text matches a term in a language.  The simple search ignores the
language: each token of the term has to be the beginning of some word of the text, without regard to
case.  Tokens are separated by blanks, words by whatever is no letter or numeral, and a term without
tokens matches nothing.
-/

namespace RecordQuery

/-- A full-text matcher: text, language, term. -/
abbrev TextSearch := String → String → String → Bool

namespace TextSearch

/-- The words of a text in lower case. -/
def wordsOf (text : List Char) : List (List Char) :=
  (Text.words (fun c => !Text.isAlphanumeric c) text).map Text.lowerChars

/-- The tokens of a term in lower case. -/
def tokensOf (term : List Char) : List (List Char) :=
  (Text.words Text.isBlank term).map Text.lowerChars

/-- Each token begins some word, and there is a token. -/
def simple : TextSearch := fun text _ term =>
  let words := wordsOf text.toList
  let tokens := tokensOf term.toList
  !tokens.isEmpty && tokens.all fun token => words.any fun word => token.isPrefixOf word

end TextSearch

end RecordQuery
