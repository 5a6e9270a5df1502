import Boilerplate.Text.LetterCase

/-!
# Words of a name

A name is cut into lower-case words at every character that is neither letter nor digit, between a
small letter and a capital, and before the last capital of a run of capitals that a small letter
follows. The case conventions join these words again.
-/

namespace Boilerplate.Text

/-- Whether a word ends after `c`, given the characters that follow it. -/
def endsWord (c : Char) : List Char → Bool
  | [] => false
  | next :: rest =>
    (isLowercase c && isUppercase next)
      || (isUppercase c && isUppercase next && rest.head?.any isLowercase)

/-- The word collected so far, as a list of at most one lower-case word. -/
def flushWord (current : List Char) : List (List Char) :=
  if current.isEmpty then [] else [lower current.reverse]

/-- `current` holds the characters of the word under way, last one first. -/
def splitWordsFrom (current : List Char) : List Char → List (List Char)
  | [] => flushWord current
  | c :: rest =>
    if !isAlphanumeric c then flushWord current ++ splitWordsFrom [] rest
    else if endsWord c rest then flushWord (c :: current) ++ splitWordsFrom [] rest
    else splitWordsFrom (c :: current) rest

def splitWords (s : List Char) : List (List Char) :=
  splitWordsFrom [] s

/-- Words joined by one separator. -/
def joinWith (separator : Char) (words : List (List Char)) : List Char :=
  [separator].intercalate words

def snakeCase (s : List Char) : List Char :=
  joinWith '_' (splitWords s)

def kebabCase (s : List Char) : List Char :=
  joinWith '-' (splitWords s)

def capitalize : List Char → List Char
  | [] => []
  | c :: rest => upperChar c ++ rest

def pascalCase (s : List Char) : List Char :=
  (splitWords s).flatMap capitalize

end Boilerplate.Text
