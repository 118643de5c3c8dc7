import GlslPrelude.Token.Number

/-!
# Cutting text into tokens

A text is read by steps, each of which takes a token, a blank or a comment off its front. A comment
of one line counts as a token if only blanks stand before it on its line.
-/

namespace GlslPrelude

/-- A fault and the number of its line. -/
structure LexError where
  /-- Line, counted from 1 in the text read. -/
  line : Nat
  /-- What is wrong. -/
  fault : LexFault
deriving DecidableEq

/-- A place in a text that is being cut into tokens. -/
structure Scanner where
  /-- The text that is left. -/
  rest : List Char
  /-- Line of its first character. -/
  line : Nat
  /-- Whether only blanks were seen on this line. -/
  isLineStart : Bool

namespace Scanner

/-- The start of a text. -/
def init (text : List Char) : Scanner :=
  { rest := text, line := 1, isLineStart := true }

/-- Whether the character is a blank other than a newline. -/
def isSpace (c : Char) : Bool :=
  c = ' ' || c = '\t' || c = '\x0c' || c = '\r'

/-- The text behind the end of a block comment, and a number increased by that of the newlines in
the comment. -/
def skipComment (newlines : Nat) : List Char → Option (Nat × List Char)
  | '*' :: '/' :: cs => some (newlines, cs)
  | '\n' :: cs => skipComment (newlines + 1) cs
  | _ :: cs => skipComment newlines cs
  | [] => none

/-- The text of a documentation comment, without the carriage returns at its end. -/
def docText (cs : List Char) : String :=
  String.ofList ((cs.reverse.dropWhile (· = '\r')).reverse)

/-- Read the token that starts with a character. -/
def readLexeme (c : Char) (cs : List Char) : Except LexFault (Lexeme × List Char) :=
  match Punct.ofChar? c with
  | some mark => .ok (.punct mark, cs)
  | none =>
    if Lexeme.startsName c then
      .ok (.word (String.ofList (c :: cs.takeWhile Lexeme.continuesName)),
        cs.dropWhile Lexeme.continuesName)
    else if c.isDigit || (c = '.' && cs.head?.any Char.isDigit) then Lexeme.readNumber (c :: cs)
    else .error .unexpectedCharacter

/-- Take what comes next off a text that starts with a given character: the token, if it is one, and
the place behind it. -/
def step (s : Scanner) (c : Char) (cs : List Char) :
    Except LexFault (Option Lexeme × Scanner) :=
  if c = '\n' then .ok (none, { rest := cs, line := s.line + 1, isLineStart := true })
  else if isSpace c then .ok (none, { s with rest := cs })
  else
    match c, cs with
    | '/', '/' :: cs =>
      -- the newline is left for the next step, which counts it
      let comment := cs.takeWhile (· ≠ '\n')
      .ok (if s.isLineStart then some (.doc (docText comment)) else none,
        { s with rest := cs.dropWhile (· ≠ '\n') })
    | '/', '*' :: cs =>
      match skipComment 0 cs with
      | some (newlines, rest) =>
        .ok (none, { rest, line := s.line + newlines, isLineStart := false })
      | none => .error .unterminatedComment
    | c, cs =>
      match readLexeme c cs with
      | .ok (lexeme, rest) => .ok (some lexeme, { s with rest, isLineStart := false })
      | .error fault => .error fault

/-- Skipping a comment does not lengthen the text. -/
theorem length_skipComment_le {m n : Nat} {cs rest : List Char}
    (h : skipComment n cs = some (m, rest)) : rest.length ≤ cs.length := by
  fun_induction skipComment n cs <;> grind

/-- A token has at least one character. -/
theorem length_readLexeme_lt {c : Char} {cs rest : List Char} {l : Lexeme}
    (h : readLexeme c cs = .ok (l, rest)) : rest.length < (c :: cs).length := by
  unfold readLexeme at h
  split at h
  · grind
  · split at h
    · grind
    · split at h
      · exact Lexeme.length_readNumber_lt (by grind) h
      · grind

/-- Every step takes at least one character off the text. -/
theorem length_step_lt {s s' : Scanner} {c : Char} {cs : List Char} {l : Option Lexeme}
    (h : s.step c cs = .ok (l, s')) : s'.rest.length < (c :: cs).length := by
  unfold step at h
  split at h
  · grind
  · split at h
    · grind
    · split at h
      · grind
      · split at h
        · have := length_skipComment_le ‹_›
          grind
        · grind
      · split at h
        · have := length_readLexeme_lt ‹_›
          grind
        · grind

/-- The tokens from a place on, behind those that are given last one first; and what keeps the rest
of the text from being cut into tokens, if anything does. -/
def run (s : Scanner) (reversed : List Token) : List Token × Option LexError :=
  match hrest : s.rest with
  | [] => (reversed.reverse, none)
  | c :: cs =>
    match hstep : s.step c cs with
    | .error fault => (reversed.reverse, some { line := s.line, fault })
    | .ok (lexeme?, s') =>
      have : s'.rest.length < s.rest.length := hrest ▸ length_step_lt hstep
      match lexeme? with
      | some lexeme => s'.run ({ lexeme, line := s.line } :: reversed)
      | none => s'.run reversed
termination_by s.rest.length

end Scanner

namespace Token

/-- The tokens of a text up to its first fault, and that fault. -/
def scan (text : List Char) : List Token × Option LexError :=
  (Scanner.init text).run []

/-- The tokens of a text. -/
def tokenize (text : List Char) : Except LexError (List Token) :=
  match scan text with
  | (tokens, none) => .ok tokens
  | (_, some error) => .error error

end Token

end GlslPrelude
