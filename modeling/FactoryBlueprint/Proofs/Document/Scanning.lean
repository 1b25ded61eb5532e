import FactoryBlueprint.Document.Parser
import FactoryBlueprint.Proofs.Document.Numeral

/-! # Scanning a written document

A written document is scanned into its tokens (`ofChars?_chars`). The punctuation that follows a
bare word ends it, and escaped characters are those of the text again.

Not every document can be written: `Document.Legible` is true of those whose fields are in key
order, whose integers fit 64 bits, and whose fractional numbers read back as themselves.
-/

namespace FactoryBlueprint

namespace Document

mutual

/-- True of a document that its own characters stand for, as far as numbers and key order go. -/
def Legible : Document → Prop
  | .integer n => -9223372036854775808 ≤ n ∧ n ≤ Numeral.maxSignificand
  | .number x => parse? (render (.number x)) = some (.number x)
  | .array items => LegibleItems items
  | .object fields => Fields.Sorted fields ∧ LegibleFields fields
  | _ => True

def LegibleItems : List Document → Prop
  | [] => True
  | item :: rest => Legible item ∧ LegibleItems rest

def LegibleFields : List (String × Document) → Prop
  | [] => True
  | (_, value) :: rest => Legible value ∧ LegibleFields rest

end

mutual

/-- The tokens of a written document. -/
def tokens : Document → List Token
  | .text value => [.text value]
  | .array [] => [.openArray, .closeArray]
  | .array (item :: rest) => .openArray :: (tokens item ++ (tokensOfItems rest ++ [.closeArray]))
  | .object [] => [.openObject, .closeObject]
  | .object ((key, value) :: rest) =>
    .openObject :: .text key :: .colon ::
      (tokens value ++ (tokensOfFields rest ++ [.closeObject]))
  | word => [.word word]

/-- Items after the first, each after a comma. -/
def tokensOfItems : List Document → List Token
  | [] => []
  | item :: rest => .comma :: (tokens item ++ tokensOfItems rest)

/-- Fields after the first, each after a comma. -/
def tokensOfFields : List (String × Document) → List Token
  | [] => []
  | (key, value) :: rest =>
    .comma :: .text key :: .colon :: (tokens value ++ tokensOfFields rest)

end

end Document

/-- The tokens of a text that is scanned from a state on, after the tokens `done`, last first. -/
def scan? (scanner : Scanner) (done : List Token) (cs : List Char) : Option (List Token) := do
  let (scanner, done) ← cs.foldlM Scanner.advance (scanner, done)
  let last ← scanner.finish?
  pure (done.reverse ++ last)

theorem ofChars?_eq_scan? (cs : List Char) : Token.ofChars? cs = scan? .between [] cs := rfl

theorem scan?_nil (done : List Token) : scan? .between done [] = some done.reverse := by
  simp [scan?, Scanner.finish?]

/-- One character of a scan. -/
theorem scan?_cons {scanner next : Scanner} {c : Char} {completed : List Token}
    (step : scanner.step c = some (next, completed)) (done : List Token) (cs : List Char) :
    scan? scanner done (c :: cs) = scan? next (completed.reverse ++ done) cs := by
  simp [scan?, List.foldlM_cons, Scanner.advance, step]

/-! ### Punctuation -/

theorem scan?_punctuation {c : Char} {token : Token}
    (step : Scanner.step .between c = some (.between, [token])) (done : List Token)
    (cs : List Char) : scan? .between done (c :: cs) = scan? .between (token :: done) cs :=
  scan?_cons step done cs

/-! ### Bare words -/

/-- No bare word goes on here. -/
def EndsWord (cs : List Char) : Prop := ∀ c ∈ cs.head?, Token.isWordChar c = false

theorem scan?_inWord (word read : List Char) (wordChars : ∀ c ∈ word, Token.isWordChar c = true)
    (done : List Token) (cs : List Char) : scan? (.inWord read) done (word ++ cs) =
      scan? (.inWord (word.reverse ++ read)) done cs := by
  induction word generalizing read with
  | nil => rfl
  | cons c word ih =>
    obtain ⟨here, later⟩ := List.forall_mem_cons.mp wordChars
    have step : Scanner.step (.inWord read) c = some (.inWord (c :: read), []) := if_pos here
    rw [List.cons_append, scan?_cons step, List.reverse_nil, List.nil_append, ih _ later]
    simp

/-- The end of a word: its token is complete, and what follows starts afresh. -/
theorem scan?_endWord {read : List Char} {token : Token}
    (complete : Token.ofWord? read.reverse = some token) (done : List Token) {cs : List Char}
    (ends : EndsWord cs) :
    scan? (.inWord read) done cs = scan? .between (token :: done) cs := by
  cases cs with
  | nil => simp [scan?, Scanner.finish?, complete]
  | cons c cs =>
    have notWord : Token.isWordChar c = false := ends c rfl
    cases next : Scanner.start c with
    | none => simp [scan?, List.foldlM_cons, Scanner.advance, Scanner.step, notWord, next, complete]
    | some next =>
      simp [scan?, List.foldlM_cons, Scanner.advance, Scanner.step, notWord, next, complete]

/-- A word starts with any of its characters. -/
theorem step_wordChar {c : Char} (wordChar : Token.isWordChar c = true) :
    Scanner.step .between c = some (.inWord [c], []) := by
  have other (d : Char) (not : Token.isWordChar d = false) : c ≠ d := by
    rintro rfl
    rw [wordChar] at not
    contradiction
  have apart : Token.isSeparator c = false := by
    simp [Token.isSeparator, other ' ' (by decide), other '\n' (by decide),
      other '\r' (by decide), other '\t' (by decide)]
  simp [Scanner.step, Scanner.start, apart, other '"' (by decide), wordChar]

theorem scan?_wordChars {c : Char} {word : List Char}
    (wordChars : ∀ d ∈ c :: word, Token.isWordChar d = true) (done : List Token)
    (cs : List Char) :
    scan? .between done (c :: word ++ cs) = scan? (.inWord (c :: word).reverse) done cs := by
  obtain ⟨here, later⟩ := List.forall_mem_cons.mp wordChars
  rw [List.cons_append, scan?_cons (step_wordChar here), scan?_inWord word [c] later,
    List.reverse_cons]
  rfl

/-- A word is scanned into its token. -/
theorem scan?_word {word : List Char} {token : Token}
    (wordChars : ∀ c ∈ word, Token.isWordChar c = true)
    (complete : Token.ofWord? word = some token) (done : List Token) {cs : List Char}
    (ends : EndsWord cs) :
    scan? .between done (word ++ cs) = scan? .between (token :: done) cs := by
  cases word with
  | nil => nomatch complete
  | cons c word =>
    rw [scan?_wordChars wordChars]
    exact scan?_endWord (by rwa [List.reverse_reverse]) done ends

/-! ### Texts -/

theorem hexDigit?_hexDigit : ∀ n < 16, Scanner.hexDigit? (Document.hexDigit n) = some n := by
  decide

/-- The four digits of a control character. -/
theorem scan?_unit {c : Char} (control : c.toNat < 0x20) (read : List Char) (done : List Token)
    (cs : List Char) :
    scan? (.inUnit read none 0 0) done
        ('0' :: '0' :: Document.hexDigit (c.toNat / 16) :: Document.hexDigit c.toNat :: cs) =
      scan? (.inText (c :: read)) done cs := by
  have high := hexDigit?_hexDigit (c.toNat / 16) (by omega)
  have low : Scanner.hexDigit? (Document.hexDigit c.toNat) = some (c.toNat % 16) := by
    have last := hexDigit?_hexDigit (c.toNat % 16) (by omega)
    rwa [Document.hexDigit, Nat.mod_mod] at last
  have whole : 16 * (c.toNat / 16) + c.toNat % 16 = c.toNat := Nat.div_add_mod ..
  have first : Scanner.step (.inUnit read none 0 0) '0' = some (.inUnit read none 1 0, []) := rfl
  have second : Scanner.step (.inUnit read none 1 0) '0' = some (.inUnit read none 2 0, []) := rfl
  have third : Scanner.step (.inUnit read none 2 0) (Document.hexDigit (c.toNat / 16)) =
      some (.inUnit read none 3 (c.toNat / 16), []) := by
    simp [Scanner.step, high]
  have fourth : Scanner.step (.inUnit read none 3 (c.toNat / 16)) (Document.hexDigit c.toNat) =
      some (.inText (c :: read), []) := by
    have notHigh : Scanner.isHighSurrogate c.toNat = false := by
      simp [Scanner.isHighSurrogate]
      omega
    have notLow : Scanner.isLowSurrogate c.toNat = false := by
      simp [Scanner.isLowSurrogate]
      omega
    simp [Scanner.step, low, whole, Scanner.afterUnit, notHigh, notLow, Char.ofNat_toNat]
  exact (scan?_cons first done _).trans <| (scan?_cons second done _).trans <|
    (scan?_cons third done _).trans (scan?_cons fourth done cs)

/-- A written character stands for itself within a text. -/
theorem scan?_escape (c : Char) (read : List Char) (done : List Token) (cs : List Char) :
    scan? (.inText read) done (Document.escape c ++ cs) = scan? (.inText (c :: read)) done cs := by
  have opens : Scanner.step (.inText read) '\\' = some (.inEscape read, []) := rfl
  have named {e : Char} (name : Scanner.escaped? e = some c) (notUnit : e ≠ 'u') :
      scan? (.inText read) done (['\\', e] ++ cs) = scan? (.inText (c :: read)) done cs := by
    have closes : Scanner.step (.inEscape read) e = some (.inText (c :: read), []) := by
      rw [Scanner.step, if_neg notUnit, name]
      rfl
    exact (scan?_cons opens done _).trans (scan?_cons closes done cs)
  unfold Document.escape
  split_ifs with quote backslash backspace formFeed lineFeed carriageReturn tab control
  · exact named (by rw [quote]; rfl) (by decide)
  · exact named (by rw [backslash]; rfl) (by decide)
  · exact named (by rw [backspace]; rfl) (by decide)
  · exact named (by rw [formFeed]; rfl) (by decide)
  · exact named (by rw [lineFeed]; rfl) (by decide)
  · exact named (by rw [carriageReturn]; rfl) (by decide)
  · exact named (by rw [tab]; rfl) (by decide)
  · have unit : Scanner.step (.inEscape read) 'u' = some (.inUnit read none 0 0, []) := rfl
    exact (scan?_cons opens done _).trans <| (scan?_cons unit done _).trans
      (scan?_unit control read done cs)
  · have plain : Scanner.step (.inText read) c = some (.inText (c :: read), []) := by
      rw [Scanner.step, if_neg quote, if_neg backslash, if_neg control]
    exact scan?_cons plain done cs

theorem scan?_inText (text read : List Char) (done : List Token) (cs : List Char) :
    scan? (.inText read) done (text.flatMap Document.escape ++ '"' :: cs) =
      scan? .between (.text (String.ofList (read.reverse ++ text)) :: done) cs := by
  induction text generalizing read with
  | nil =>
    have closes : Scanner.step (.inText read) '"' =
      some (.between, [.text (String.ofList read.reverse)]) := rfl
    rw [List.flatMap_nil, List.nil_append, List.append_nil]
    exact scan?_cons closes done cs
  | cons c text ih =>
    rw [List.flatMap_cons, List.append_assoc, scan?_escape, ih]
    simp

theorem scan?_quoted (s : String) (done : List Token) (cs : List Char) :
    scan? .between done (Document.quoted s ++ cs) = scan? .between (.text s :: done) cs := by
  have opens : Scanner.step .between '"' = some (.inText [], []) := rfl
  rw [Document.quoted, List.cons_append, List.cons_append, scan?_cons opens, List.append_assoc]
  simpa using scan?_inText s.toList [] done cs

/-! ### Numbers -/

theorem exists_of_ofWord? {cs : List Char} {token : Token}
    (complete : Token.ofWord? cs = some token) : ∃ document, token = .word document := by
  unfold Token.ofWord? at complete
  split_ifs at complete
  · exact ⟨_, (Option.some.inj complete).symm⟩
  · exact ⟨_, (Option.some.inj complete).symm⟩
  · exact ⟨_, (Option.some.inj complete).symm⟩
  · obtain ⟨numeral, -, read⟩ := Option.bind_eq_some_iff.mp complete
    obtain ⟨document, -, rfl⟩ := Option.map_eq_some_iff.mp read
    exact ⟨document, rfl⟩

theorem ofChars?_of_ofWord? {word : List Char} {document : Document}
    (wordChars : ∀ c ∈ word, Token.isWordChar c = true)
    (complete : Token.ofWord? word = some (.word document)) :
    Document.ofChars? word = some document := by
  have scanned : scan? .between [] (word ++ []) = scan? .between [.word document] [] :=
    scan?_word wordChars complete [] nofun
  rw [List.append_nil, scan?_nil] at scanned
  rw [Document.ofChars?, ofChars?_eq_scan?, scanned]
  rfl

/-- A word is read as a document only if it is that document. -/
theorem ofWord?_of_ofChars? {word : List Char} {document : Document}
    (wordChars : ∀ c ∈ word, Token.isWordChar c = true)
    (read : Document.ofChars? word = some document) :
    Token.ofWord? word = some (.word document) := by
  cases complete : Token.ofWord? word with
  | none =>
    have nothing : Token.ofChars? word = none := by
      cases word with
      | nil => nomatch read
      | cons c word =>
        have scanned := scan?_wordChars wordChars [] []
        rw [List.append_nil] at scanned
        rw [ofChars?_eq_scan?, scanned]
        simp [scan?, Scanner.finish?, complete, -List.reverse_cons]
    rw [Document.ofChars?, nothing] at read
    contradiction
  | some token =>
    obtain ⟨other, rfl⟩ := exists_of_ofWord? complete
    have same := (ofChars?_of_ofWord? wordChars complete).symm.trans read
    rw [Option.some.inj same]

theorem legible_number_iff (x : Binary64) : (Document.number x).Legible ↔
    Token.ofWord? (NumberLayout.document.render x).toList = some (.word (.number x)) := by
  have wordChars := NumberLayout.isWord_render .document x
  rw [Document.Legible, Document.parse?, Document.render, String.toList_ofList]
  exact ⟨ofWord?_of_ofChars? wordChars, ofChars?_of_ofWord? wordChars⟩

/-- A number with a fraction or an exponent is legible if its numeral comes out as the number. -/
theorem legible_number {x : Binary64} {numeral : Numeral}
    (spelled : Numeral.parse? (NumberLayout.document.render x).toList = some numeral)
    (fractional : numeral.fraction.isSome ∨ numeral.exponent.isSome)
    (read : numeral.scaled? = some x) : (Document.number x).Legible := by
  have value : numeral.document? = some (.number x) := by
    rcases fractional with some | some <;> simp [Numeral.document?, ← Option.not_isSome, some, read]
  have letters (word : List Char) (unspelled : Numeral.parse? word = none) :
      (NumberLayout.document.render x).toList ≠ word := by
    intro same
    rw [same, unspelled] at spelled
    contradiction
  rw [legible_number_iff, Token.ofWord?, if_neg (letters _ rfl), if_neg (letters _ rfl),
    if_neg (letters _ rfl), spelled]
  simp [value]

/-! ### Documents -/

theorem EndsWord.charsOfItems {cs : List Char} (ends : EndsWord cs) (items : List Document) :
    EndsWord (Document.charsOfItems items ++ cs) := by
  cases items with
  | nil => exact ends
  | cons item rest =>
    rw [Document.charsOfItems]
    rintro c ⟨⟩
    decide

theorem EndsWord.charsOfFields {cs : List Char} (ends : EndsWord cs)
    (fields : List (String × Document)) : EndsWord (Document.charsOfFields fields ++ cs) := by
  cases fields with
  | nil => exact ends
  | cons field rest =>
    rw [Document.charsOfFields]
    rintro c ⟨⟩
    decide

theorem endsWord_cons {c : Char} (notWord : Token.isWordChar c = false) (cs : List Char) :
    EndsWord (c :: cs) := by
  rintro _ ⟨⟩
  exact notWord

mutual

theorem scan?_chars : (document : Document) → document.Legible → (done : List Token) →
    (cs : List Char) → EndsWord cs → scan? .between done (document.chars ++ cs) =
      scan? .between (document.tokens.reverse ++ done) cs
  | .null, _, done, cs, ends =>
    scan?_word (by decide : NumberLayout.IsWord "null") rfl done ends
  | .bool true, _, done, cs, ends =>
    scan?_word (by decide : NumberLayout.IsWord "true") rfl done ends
  | .bool false, _, done, cs, ends =>
    scan?_word (by decide : NumberLayout.IsWord "false") rfl done ends
  | .integer n, legible, done, cs, ends =>
    scan?_word (fun _ => Token.isWordChar_of_mem_digits)
      (Token.ofWord?_digits legible.1 legible.2) done ends
  | .number x, legible, done, cs, ends =>
    scan?_word (NumberLayout.isWord_render .document x) ((legible_number_iff x).mp legible) done
      ends
  | .text value, _, done, cs, _ => scan?_quoted value done cs
  | .array [], _, done, cs, _ => by
    rw [Document.chars, List.cons_append, scan?_punctuation rfl, List.cons_append,
      scan?_punctuation rfl]
    rfl
  | .array (item :: rest), legible, done, cs, ends => by
    -- what follows an item, a comma or the bracket, ends a bare word
    have closed : EndsWord (']' :: cs) := endsWord_cons (by decide) cs
    rw [Document.chars, List.cons_append, scan?_punctuation rfl, List.append_assoc,
      List.append_assoc, List.singleton_append,
      scan?_chars item legible.1 _ _ (closed.charsOfItems rest),
      scan?_charsOfItems rest legible.2 _ _ closed, scan?_punctuation rfl]
    simp [Document.tokens]
  | .object [], _, done, cs, _ => by
    rw [Document.chars, List.cons_append, scan?_punctuation rfl, List.cons_append,
      scan?_punctuation rfl]
    rfl
  | .object ((key, value) :: rest), legible, done, cs, ends => by
    have closed : EndsWord ('\x7d' :: cs) := endsWord_cons (by decide) cs
    rw [Document.chars, List.cons_append, scan?_punctuation rfl, List.append_assoc, scan?_quoted,
      List.cons_append, scan?_punctuation rfl, List.append_assoc, List.append_assoc,
      List.singleton_append, scan?_chars value legible.2.1 _ _ (closed.charsOfFields rest),
      scan?_charsOfFields rest legible.2.2 _ _ closed, scan?_punctuation rfl]
    simp [Document.tokens]

theorem scan?_charsOfItems : (items : List Document) → Document.LegibleItems items →
    (done : List Token) → (cs : List Char) → EndsWord cs →
    scan? .between done (Document.charsOfItems items ++ cs) =
      scan? .between ((Document.tokensOfItems items).reverse ++ done) cs
  | [], _, _, _, _ => rfl
  | item :: rest, legible, done, cs, ends => by
    rw [Document.charsOfItems, List.cons_append, scan?_punctuation rfl, List.append_assoc,
      scan?_chars item legible.1 _ _ (ends.charsOfItems rest),
      scan?_charsOfItems rest legible.2 _ _ ends]
    simp [Document.tokensOfItems]

theorem scan?_charsOfFields : (fields : List (String × Document)) →
    Document.LegibleFields fields → (done : List Token) → (cs : List Char) → EndsWord cs →
    scan? .between done (Document.charsOfFields fields ++ cs) =
      scan? .between ((Document.tokensOfFields fields).reverse ++ done) cs
  | [], _, _, _, _ => rfl
  | (key, value) :: rest, legible, done, cs, ends => by
    rw [Document.charsOfFields, List.cons_append, scan?_punctuation rfl, List.append_assoc,
      scan?_quoted, List.cons_append, scan?_punctuation rfl, List.append_assoc,
      scan?_chars value legible.1 _ _ (ends.charsOfFields rest),
      scan?_charsOfFields rest legible.2 _ _ ends]
    simp [Document.tokensOfFields]

end

/-- A written document is scanned into its tokens. -/
theorem ofChars?_chars {document : Document} (legible : document.Legible) :
    Token.ofChars? document.chars = some document.tokens := by
  have scanned := scan?_chars document legible [] [] nofun
  rw [List.append_nil, List.append_nil, scan?_nil, List.reverse_reverse] at scanned
  exact scanned

end FactoryBlueprint
