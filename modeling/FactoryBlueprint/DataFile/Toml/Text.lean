import FactoryBlueprint.Document.Token

/-! # Blanks, comments and texts of TOML

Readers take what they read from the front of a text and give back the rest. A line ends with a
line feed, before which a carriage return may stand; no carriage return and no other control
character but the tab stands anywhere else.

A text stands between two quotes or, over several lines, between two groups of three. Between double
quotes a backslash starts an escape.
-/

namespace FactoryBlueprint.Toml

def isBlank (c : Char) : Bool := c = ' ' || c = '\t'

/-- Characters that comments and texts may hold. -/
def isPrintable (c : Char) : Bool := c = '\t' || (0x20 ≤ c.toNat && c.toNat ≠ 0x7F)

def skipBlanks (cs : List Char) : List Char := cs.dropWhile isBlank

/-- What follows a line end. -/
def newline? : List Char → Option (List Char)
  | '\n' :: rest => some rest
  | '\r' :: '\n' :: rest => some rest
  | _ => none

/-- What follows the rest of a line that holds nothing but blanks and a comment. -/
def lineEnd? (cs : List Char) : Option (List Char) :=
  let rest := match skipBlanks cs with
    | '#' :: comment => comment.dropWhile isPrintable
    | rest => rest
  if rest.isEmpty then some [] else newline? rest

/-- What follows blanks, comments and line ends. -/
def skipLines (inComment : Bool) : List Char → List Char
  | [] => []
  | c :: rest =>
    if c = '\n' then skipLines false rest
    else if c = '\r' && rest.head? = some '\n' then skipLines inComment rest
    else if inComment && isPrintable c then skipLines true rest
    else if !inComment && isBlank c then skipLines false rest
    else if !inComment && c = '#' then skipLines true rest
    else c :: rest

/-! ### Texts -/

/-- The character that a backslash and `c` stand for. -/
def escaped? (c : Char) : Option Char :=
  if c = '"' ∨ c = '\\' then some c
  else if c = 'b' then some '\x08'
  else if c = 't' then some '\t'
  else if c = 'n' then some '\n'
  else if c = 'f' then some '\x0c'
  else if c = 'r' then some '\r'
  else none

/-- The character of a code in hexadecimal digits, if there is one. -/
def charOfCode? (digits : List Char) : Option Char := do
  let code ← digits.foldlM (fun n c => do some (16 * n + (← Scanner.hexDigit? c))) 0
  if code.isValidChar then some (Char.ofNat code) else none

/-- The marks around a text. -/
structure Quotes where
  mark : Char
  /-- Three marks stand on either side, and lines may end between them. -/
  areTriple : Bool

namespace Quotes

/-- True if a backslash starts an escape. -/
def allowEscapes (quotes : Quotes) : Bool := quotes.mark = '"'

/-- The most marks that may stand directly before the closing group of three. -/
def maxExtra : Nat := 2

/-- Reads on from within a text of which `read` was read, last first. After a backslash at the end
of a line, `skipping` blanks and line ends. -/
def text? (quotes : Quotes) (skipping : Bool) (read : List Char) :
    List Char → Option (String × List Char)
  | [] => none
  | c :: rest =>
    if c = quotes.mark then
      let marks := ((c :: rest).takeWhile (· = quotes.mark)).length
      if !quotes.areTriple then some (String.ofList read.reverse, rest)
      else if marks < 3 then text? quotes false (c :: read) rest
      else
        let extra := min (marks - 3) maxExtra
        some (String.ofList (List.replicate extra c ++ read).reverse, rest.drop (extra + 2))
    else if c = '\\' && quotes.allowEscapes then
      match rest with
      | 'u' :: a :: b :: c :: d :: rest => do
        text? quotes false ((← charOfCode? [a, b, c, d]) :: read) rest
      | 'U' :: a :: b :: c :: d :: e :: f :: g :: h :: rest => do
        text? quotes false ((← charOfCode? [a, b, c, d, e, f, g, h]) :: read) rest
      | e :: rest =>
        if quotes.areTriple && (newline? (skipBlanks (e :: rest))).isSome then
          text? quotes true read (e :: rest)
        else (escaped? e).bind fun e => text? quotes false (e :: read) rest
      | [] => none
    else if quotes.areTriple && c = '\n' then
      text? quotes skipping (if skipping then read else c :: read) rest
    else if quotes.areTriple && c = '\r' && rest.head? = some '\n' then
      text? quotes skipping read rest
    else if skipping && isBlank c then text? quotes true read rest
    else if isPrintable c then text? quotes false (c :: read) rest
    else none

end Quotes

/-- A text on one line. -/
def lineText? : List Char → Option (String × List Char)
  | '"' :: rest => Quotes.text? ⟨'"', false⟩ false [] rest
  | '\'' :: rest => Quotes.text? ⟨'\'', false⟩ false [] rest
  | _ => none

/-- A text over several lines, after its opening marks. A line end directly after them does not
count. -/
def linesText? (mark : Char) (cs : List Char) : Option (String × List Char) :=
  Quotes.text? ⟨mark, true⟩ false [] ((newline? cs).getD cs)

/-- A text. -/
def text? : List Char → Option (String × List Char)
  | '"' :: '"' :: '"' :: rest => linesText? '"' rest
  | '\'' :: '\'' :: '\'' :: rest => linesText? '\'' rest
  | cs => lineText? cs

/-! ### Keys -/

/-- Characters of keys without quotes. -/
def isKeyChar (c : Char) : Bool := c.isAlphanum || c = '_' || c = '-'

/-- A key, quoted or not. -/
def key? (cs : List Char) : Option (String × List Char) :=
  let letters := cs.takeWhile isKeyChar
  if letters.isEmpty then lineText? cs else some (String.ofList letters, cs.dropWhile isKeyChar)

/-- The most keys in a dotted key. -/
def maxKeys : Nat := 79

/-- A dotted key, split before its last part; it has no more than `room` of them. -/
def path? : (room : Nat) → List Char → Option ((List String × String) × List Char)
  | 0, _ => none
  | room + 1, cs => do
    let (key, rest) ← key? (skipBlanks cs)
    match skipBlanks rest with
    | '.' :: rest =>
      let ((keys, last), rest) ← path? room rest
      some ((key :: keys, last), rest)
    | rest => some (([], key), rest)

end FactoryBlueprint.Toml
