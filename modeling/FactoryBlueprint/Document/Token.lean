import FactoryBlueprint.Document.Numeral

/-! # Tokens of a written document

A document is written as punctuation, quoted texts, and bare words (numbers, `true`, `false` and
`null`), between which blanks may stand. `Token.ofChars?` splits a text into tokens in one pass: the
pass is a fold of `Scanner.step`, whose state says inside which token the text stands.
-/

namespace FactoryBlueprint

inductive Token where
  | openArray
  | closeArray
  | openObject
  | closeObject
  | comma
  | colon
  | text (value : String)
  /-- A bare word with its value. -/
  | word (value : Document)
  deriving Inhabited

/-- Where a scan stands. Characters of an unfinished token are kept last first. -/
inductive Scanner where
  | between
  | inWord (read : List Char)
  | inText (read : List Char)
  /-- After a backslash. -/
  | inEscape (read : List Char)
  /-- Within the four digits of a code unit; `high` is the first half of a surrogate pair. -/
  | inUnit (read : List Char) (high : Option Nat) (count unit : Nat)
  /-- After the first half of a surrogate pair. -/
  | afterHigh (read : List Char) (high : Nat)
  /-- After the first half of a surrogate pair and a backslash. -/
  | afterHighEscape (read : List Char) (high : Nat)
  deriving Inhabited

namespace Token

/-- The blanks that may stand between tokens. -/
def isSeparator (c : Char) : Bool := c = ' ' || c = '\n' || c = '\r' || c = '\t'

/-- Characters of bare words. -/
def isWordChar (c : Char) : Bool := c.isAlphanum || c = '+' || c = '-' || c = '.'

def punctuation? (c : Char) : Option Token :=
  if c = '[' then some .openArray
  else if c = ']' then some .closeArray
  else if c = '\x7b' then some .openObject
  else if c = '\x7d' then some .closeObject
  else if c = ',' then some .comma
  else if c = ':' then some .colon
  else none

/-- The token of a complete bare word. -/
def ofWord? (cs : List Char) : Option Token :=
  if cs = ['t', 'r', 'u', 'e'] then some (.word (.bool true))
  else if cs = ['f', 'a', 'l', 's', 'e'] then some (.word (.bool false))
  else if cs = ['n', 'u', 'l', 'l'] then some (.word .null)
  else do (← Numeral.parse? cs).document?.map .word

end Token

namespace Scanner

/-- The character that a backslash and `c` stand for. -/
def escaped? (c : Char) : Option Char :=
  if c = '"' ∨ c = '\\' ∨ c = '/' then some c
  else if c = 'b' then some '\x08'
  else if c = 'f' then some '\x0c'
  else if c = 'n' then some '\n'
  else if c = 'r' then some '\r'
  else if c = 't' then some '\t'
  else none

def hexDigit? (c : Char) : Option Nat :=
  if c.isDigit then some (c.toNat - '0'.toNat)
  else if 'a' ≤ c ∧ c ≤ 'f' then some (c.toNat - 'a'.toNat + 10)
  else if 'A' ≤ c ∧ c ≤ 'F' then some (c.toNat - 'A'.toNat + 10)
  else none

def isHighSurrogate (unit : Nat) : Bool := 0xD800 ≤ unit && unit < 0xDC00
def isLowSurrogate (unit : Nat) : Bool := 0xDC00 ≤ unit && unit < 0xE000

/-- The state after a complete code unit. Halves of surrogate pairs must meet. -/
def afterUnit (read : List Char) (high : Option Nat) (unit : Nat) : Option Scanner :=
  match high with
  | none =>
    if isHighSurrogate unit then some (.afterHigh read unit)
    else if isLowSurrogate unit then none
    else some (.inText (Char.ofNat unit :: read))
  | some high =>
    if isLowSurrogate unit then
      some (.inText (Char.ofNat (0x10000 + (high - 0xD800) * 0x400 + (unit - 0xDC00)) :: read))
    else none

/-- The state and the token, if any, after a character outside every token. -/
def start (c : Char) : Option (Scanner × List Token) :=
  if Token.isSeparator c then some (.between, [])
  else if c = '"' then some (.inText [], [])
  else if Token.isWordChar c then some (.inWord [c], [])
  else (Token.punctuation? c).map fun token => (.between, [token])

/-- The state after one more character, and the tokens that it completes. -/
def step (scanner : Scanner) (c : Char) : Option (Scanner × List Token) :=
  match scanner with
  | .between => start c
  | .inWord read =>
    if Token.isWordChar c then some (.inWord (c :: read), [])
    else do
      let token ← Token.ofWord? read.reverse
      let (next, tokens) ← start c
      pure (next, token :: tokens)
  | .inText read =>
    if c = '"' then some (.between, [.text (String.ofList read.reverse)])
    else if c = '\\' then some (.inEscape read, [])
    else if c.toNat < 0x20 then none
    else some (.inText (c :: read), [])
  | .inEscape read =>
    if c = 'u' then some (.inUnit read none 0 0, [])
    else (escaped? c).map fun e => (.inText (e :: read), [])
  | .inUnit read high count unit => do
    let unit := 16 * unit + (← hexDigit? c)
    if count = 3 then (afterUnit read high unit).map fun next => (next, [])
    else some (.inUnit read high (count + 1) unit, [])
  | .afterHigh read high => if c = '\\' then some (.afterHighEscape read high, []) else none
  | .afterHighEscape read high => if c = 'u' then some (.inUnit read (some high) 0 0, []) else none

/-- The last token, if the text may end here. -/
def finish? : Scanner → Option (List Token)
  | .between => some []
  | .inWord read => (Token.ofWord? read.reverse).map fun token => [token]
  | _ => none

end Scanner

/-- One character of a scan that has completed the tokens `done`, last first. -/
def Scanner.advance (scan : Scanner × List Token) (c : Char) : Option (Scanner × List Token) := do
  let (next, tokens) ← scan.1.step c
  pure (next, tokens.reverse ++ scan.2)

/-- The tokens of a text. -/
def Token.ofChars? (cs : List Char) : Option (List Token) := do
  let (scanner, done) ← cs.foldlM Scanner.advance (.between, [])
  let last ← scanner.finish?
  pure (done.reverse ++ last)

end FactoryBlueprint
