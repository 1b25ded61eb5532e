import FactoryBlueprint.Document.Token

/-! # Tokens of RON

A text is split into marks, quoted texts and words in one pass: the pass is a fold of `Scan.step`,
whose state says inside which token the text stands. Blanks and comments may stand between tokens;
block comments nest.
-/

namespace FactoryBlueprint.Ron

inductive Token where
  | mark (c : Char)
  | text (value : String)
  /-- A character between single quotes. -/
  | character
  /-- A number or a name. -/
  | word (letters : List Char)
  /-- A name after `r#`, which may hold the characters of numbers. -/
  | rawName (letters : List Char)
  deriving DecidableEq

namespace Token

def isMark (c : Char) : Bool :=
  c = '(' || c = ')' || c = '[' || c = ']' || c = '\x7b' || c = '\x7d' || c = ',' || c = ':' ||
    c = '#' || c = '!'

/-- Characters of words. -/
def isWordChar (c : Char) : Bool := c.isAlphanum || c = '_' || c = '+' || c = '-' || c = '.'

/-- True of the words that are names: they start with a letter or `_` and hold no sign or point. -/
def isName : List Char → Bool
  | c :: cs => (c.isAlpha || c = '_') && cs.all fun c => c.isAlphanum || c = '_'
  | [] => false

/-- The name that a token is. -/
def name? : Token → Option String
  | .word letters => if isName letters then some (String.ofList letters) else none
  | .rawName letters => some (String.ofList letters)
  | _ => none

/-- The token of what stands between two quotes `mark`. Single quotes hold one character. -/
def ofQuoted? (mark : Char) (letters : List Char) : Option Token :=
  if mark = '"' then some (.text (String.ofList letters))
  else if letters.length = 1 then some .character
  else none

end Token

/-- Where a scan stands. Characters of an unfinished token are kept last first. -/
inductive Scan where
  | between
  | word (read : List Char)
  /-- Between two quotes `mark`. -/
  | quoted (mark : Char) (read : List Char)
  | escape (mark : Char) (read : List Char)
  /-- Within the two digits of a character code. -/
  | byte (mark : Char) (read : List Char) (high : Option Nat)
  | unicodeStart (mark : Char) (read : List Char)
  | unicode (mark : Char) (read : List Char) (digits code : Nat)
  /-- After `r` and some `#`. -/
  | rawStart (hashes : Nat)
  | rawName (read : List Char)
  /-- Within a text that ends in a quote and as many `#` as it started with. -/
  | raw (hashes : Nat) (read : List Char)
  /-- Within such a text, after a quote and `seen` of the `#`. -/
  | rawQuote (hashes : Nat) (read : List Char) (seen : Nat)
  /-- After a slash that starts a comment. -/
  | slash
  | line
  | block (depth : Nat)
  /-- Within a block comment, after a slash. -/
  | blockSlash (depth : Nat)
  /-- Within a block comment, after a star. -/
  | blockStar (depth : Nat)

namespace Scan

/-- The state and the token, if any, after a character outside every token. -/
def start (c : Char) : Option (Scan × List Token) :=
  if c.isWhitespace then some (.between, [])
  else if Token.isMark c then some (.between, [.mark c])
  else if c = '"' ∨ c = '\'' then some (.quoted c [], [])
  else if c = '/' then some (.slash, [])
  else if Token.isWordChar c then some (.word [c], [])
  else none

/-- The character that a backslash and `c` stand for. -/
def escaped? (c : Char) : Option Char :=
  if c = '"' ∨ c = '\\' ∨ c = '\'' then some c
  else if c = 'n' then some '\n'
  else if c = 'r' then some '\r'
  else if c = 't' then some '\t'
  else if c = '0' then some '\x00'
  else none

/-- The character of a code, if there is one. -/
def charOfCode? (code : Nat) : Option Char :=
  if code.isValidChar then some (Char.ofNat code) else none

/-- The most digits of a character code between braces. -/
def maxCodeDigits : Nat := 6

/-- After `r` and `hashes` times `#`: a further one, the quote of a text, or a name after one. -/
def afterHash (hashes : Nat) (c : Char) : Option Scan :=
  if c = '#' then some (.rawStart (hashes + 1))
  else if c = '"' then some (.raw hashes [])
  else if hashes = 1 ∧ Token.isWordChar c then some (.rawName [c])
  else none

/-- Within a text that ends in a quote and `hashes` times `#`. -/
def inRaw (hashes : Nat) (read : List Char) (c : Char) : Scan × List Token :=
  if c ≠ '"' then (.raw hashes (c :: read), [])
  else if hashes = 0 then (.between, [.text (String.ofList read.reverse)])
  else (.rawQuote hashes read 0, [])

/-- Within a block comment. -/
def inBlock (depth : Nat) (c : Char) : Scan :=
  if c = '/' then .blockSlash depth else if c = '*' then .blockStar depth else .block depth

/-- The state after one more character, and the tokens that it completes. -/
def step (scan : Scan) (c : Char) : Option (Scan × List Token) :=
  match scan with
  | .between => start c
  | .word read =>
    if Token.isWordChar c then some (.word (c :: read), [])
    else if read = ['r'] ∧ (c = '#' ∨ c = '"') then (afterHash 0 c).map (·, [])
    else (start c).map fun (next, tokens) => (next, .word read.reverse :: tokens)
  | .quoted mark read =>
    if c = mark then (Token.ofQuoted? mark read.reverse).map fun token => (.between, [token])
    else if c = '\\' then some (.escape mark read, [])
    else some (.quoted mark (c :: read), [])
  | .escape mark read =>
    if c = 'x' then some (.byte mark read none, [])
    else if c = 'u' then some (.unicodeStart mark read, [])
    else (escaped? c).map fun e => (.quoted mark (e :: read), [])
  | .byte mark read high => do
    let digit ← Scanner.hexDigit? c
    match high with
    | none => some (.byte mark read (some digit), [])
    | some high => some (.quoted mark (Char.ofNat (16 * high + digit) :: read), [])
  | .unicodeStart mark read => if c = '\x7b' then some (.unicode mark read 0 0, []) else none
  | .unicode mark read digits code =>
    if c = '\x7d' then
      if digits = 0 then none
      else (charOfCode? code).map fun u => (.quoted mark (u :: read), [])
    else if digits < maxCodeDigits then do
      let digit ← Scanner.hexDigit? c
      pure (.unicode mark read (digits + 1) (16 * code + digit), [])
    else none
  | .rawStart hashes => (afterHash hashes c).map (·, [])
  | .rawName read =>
    if Token.isWordChar c then some (.rawName (c :: read), [])
    else (start c).map fun (next, tokens) => (next, .rawName read.reverse :: tokens)
  | .raw hashes read => some (inRaw hashes read c)
  | .rawQuote hashes read seen =>
    if c ≠ '#' then some (inRaw hashes (List.replicate seen '#' ++ '"' :: read) c)
    else if seen + 1 < hashes then some (.rawQuote hashes read (seen + 1), [])
    else some (.between, [.text (String.ofList read.reverse)])
  | .slash =>
    if c = '/' then some (.line, []) else if c = '*' then some (.block 0, []) else none
  | .line => some (if c = '\n' then .between else .line, [])
  | .block depth => some (inBlock depth c, [])
  | .blockSlash depth => some (if c = '*' then .block (depth + 1) else inBlock depth c, [])
  | .blockStar depth =>
    if c = '/' then
      match depth with
      | 0 => some (.between, [])
      | outer + 1 => some (.block outer, [])
    else some (inBlock depth c, [])

/-- The last token, if the text may end here. -/
def finish? : Scan → Option (List Token)
  | .between | .line => some []
  | .word read => some [.word read.reverse]
  | .rawName read => some [.rawName read.reverse]
  | _ => none

/-- One character of a scan that has completed the tokens `done`, last first. -/
def advance (scan : Scan × List Token) (c : Char) : Option (Scan × List Token) := do
  let (next, tokens) ← scan.1.step c
  pure (next, tokens.reverse ++ scan.2)

end Scan

/-- The tokens of a text. -/
def tokens? (cs : List Char) : Option (List Token) := do
  let (scan, done) ← cs.foldlM Scan.advance (.between, [])
  let last ← scan.finish?
  pure (done.reverse ++ last)

end FactoryBlueprint.Ron
