import Boilerplate.Template.SyntaxError
import Boilerplate.Text.Position

/-!
# Tokens of a template

A source is text with tags in it. `<%= … %>` is an output tag, `<%# … %>` a comment and any other
`<% … %>` a statement; `<%%` and `%%>` stand for `<%` and `%>` in text. A statement or comment that
is alone on its line takes the line with it, blanks and line end included.
-/

namespace Boilerplate.Template

open Text

/-- `opened` is the offset of the `<%` of a tag. -/
inductive Token
  | text (s : List Char)
  | output (opened : Nat) (body : List Char)
  | statement (opened : Nat) (body : List Char)
  deriving DecidableEq, Repr

inductive TagKind
  | output
  | statement
  | comment
  deriving DecidableEq, Repr

/-- The kind of a tag and what follows its marker, given what follows `<%`. -/
def tagKind : List Char → TagKind × List Char
  | '=' :: rest => (.output, rest)
  | '#' :: rest => (.comment, rest)
  | s => (.statement, s)

/-- The text up to the first `%>` and the text after it. -/
def splitClose : List Char → Option (List Char × List Char)
  | [] => none
  | '%' :: '>' :: rest => some ([], rest)
  | c :: rest => (splitClose rest).map fun (body, after) => (c :: body, after)

theorem eq_of_splitClose {s body after : List Char} (h : splitClose s = some (body, after)) :
    s = body ++ '%' :: '>' :: after := by
  fun_induction splitClose s generalizing body after with
  | case1 => simp at h
  | case2 rest => simp_all
  | case3 c rest _ ih =>
    obtain ⟨⟨b, a⟩, hs, he⟩ := Option.map_eq_some_iff.1 h
    obtain ⟨rfl, rfl⟩ := Prod.mk.inj he
    simp [ih hs]

theorem length_tagKind_le (s : List Char) : (tagKind s).2.length ≤ s.length := by
  fun_cases tagKind s <;> simp

def isIndent (c : Char) : Bool :=
  c == ' ' || c == '\t'

def isLineFiller (c : Char) : Bool :=
  c == ' ' || c == '\t' || c == '\r'

/-- The bytes of indentation in front of a point, if nothing else stands in front of it on its line.
What is in front is given last character first. -/
def indentBefore? (before : List Char) : Option Nat :=
  let line := before.takeWhile (· != '\n')
  if line.all isIndent then some (byteLength line) else none

/-- The text after the current line, if the rest of the line is blank. -/
def afterBlankLine? (s : List Char) : Option (List Char) :=
  let line := s.takeWhile (· != '\n')
  if line.all isLineFiller then some (s.drop (line.length + 1)) else none

theorem length_afterBlankLine?_le {s rest : List Char} (h : afterBlankLine? s = some rest) :
    rest.length ≤ s.length := by
  obtain ⟨_, hRest⟩ := Option.ite_none_right_eq_some.mp h
  rw [← Option.some.inj hRest, List.length_drop]
  exact Nat.sub_le _ _

/-- A text without its last `n` bytes; the text is given last character first, and a character goes
as a whole. -/
def dropBytes (n : Nat) : List Char → List Char
  | [] => []
  | c :: rest => if n = 0 then c :: rest else dropBytes (n - c.utf8Size) rest

/-- Where reading goes on after a tag: the text collected in front of it and the text that follows.
A statement or comment that is alone on its line takes the rest of the line away from both. -/
def trimLine (kind : TagKind) (before collected after : List Char) : List Char × List Char :=
  if kind = .output then (collected, after)
  else
    match indentBefore? before, afterBlankLine? after with
    | some width, some rest => (dropBytes width collected, rest)
    | _, _ => (collected, after)

theorem length_trimLine_le (kind : TagKind) (before collected after : List Char) :
    (trimLine kind before collected after).2.length ≤ after.length := by
  rw [trimLine]
  split
  · exact Nat.le_refl _
  · split
    next h => exact length_afterBlankLine?_le h
    next => exact Nat.le_refl _

/-- The text collected so far, last character first, as a list of at most one token. -/
def flushText (collected : List Char) : List Token :=
  if collected.isEmpty then [] else [.text collected.reverse]

/-- The tokens that a tag adds, after the text in front of it. A comment adds nothing and lets the
text run on. -/
def emit (kind : TagKind) (opened : Nat) (body collected : List Char) : List Token × List Char :=
  match kind with
  | .output => (flushText collected ++ [.output opened body], [])
  | .statement => (flushText collected ++ [.statement opened body], [])
  | .comment => ([], collected)

/-- What has been read, last character first, once only `rest` is left of `s`. -/
def readUpTo (before s rest : List Char) : List Char :=
  (s.take (s.length - rest.length)).reverse ++ before

/-- Tokens of the text `s` that stands behind `before`. Both `before` and `collected` are kept last
character first. -/
def tokenizeFrom (before collected s : List Char) : Except SyntaxError (List Token) :=
  match s with
  | [] => .ok (flushText collected)
  | '<' :: '%' :: '%' :: rest =>
    tokenizeFrom ('%' :: '%' :: '<' :: before) ('%' :: '<' :: collected) rest
  | '%' :: '%' :: '>' :: rest =>
    tokenizeFrom ('>' :: '%' :: '%' :: before) ('>' :: '%' :: collected) rest
  | '<' :: '%' :: inner =>
    match _closed : splitClose (tagKind inner).2 with
    | none => .error ⟨byteLength before, .unclosedTag⟩
    | some (body, after) =>
      let next := trimLine (tagKind inner).1 before collected after
      let (tokens, kept) := emit (tagKind inner).1 (byteLength before) body next.1
      (tokenizeFrom (readUpTo before ('<' :: '%' :: inner) next.2) kept next.2).map (tokens ++ ·)
  | c :: rest => tokenizeFrom (c :: before) (c :: collected) rest
termination_by s.length
decreasing_by
  all_goals simp only [List.length_cons]
  · omega
  · omega
  · have h1 := congrArg List.length (eq_of_splitClose _closed)
    have h2 := length_tagKind_le inner
    have h3 := length_trimLine_le (tagKind inner).1 before collected after
    simp only [List.length_append, List.length_cons] at h1
    omega
  · omega

def tokenize (source : List Char) : Except SyntaxError (List Token) :=
  tokenizeFrom [] [] source

end Boilerplate.Template
