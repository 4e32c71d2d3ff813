/-!
# The lexemes of SQL

A text is a row of lexemes: words, numbers, texts in quotes, marks, and the gaps between them.  Each
one is as long as it can be, and a NUL ends the text.  A lexeme knows the byte at which it begins,
so that a complaint about a statement can say where.

* `Sql.lexemes` — the lexemes of a text, gaps included.
* `Sql.texts_lexemesFrom` — nothing of the text is lost.
* `Sql.Lexeme.name?` — the name that a lexeme stands for.
-/

namespace Transactional.Sql

/-- **What a lexeme is.** -/
inductive LexemeKind where
  | gap
  | word
  | number
  | quoted
  /-- Anything else with a meaning: an operator, a bracket, a placeholder. -/
  | mark
  | unknown
deriving DecidableEq

/-- **A lexeme.** -/
structure Lexeme where
  kind : LexemeKind
  text : String
  start : Nat
deriving DecidableEq

/-! ## Characters -/

/-- Whether a character belongs to words. -/
def isWordChar (c : Char) : Bool :=
  c.isAlphanum || c = '_' || c = '$' || 0x80 ≤ c.toNat

/-- Whether a word can begin with a character. -/
def beginsWord (c : Char) : Bool :=
  isWordChar c && !c.isDigit && c ≠ '$'

/-- Whether a character goes on with a gap. -/
def isBlank (c : Char) : Bool :=
  c = ' ' || (9 ≤ c.toNat && c.toNat ≤ 13)

/-- Whether a gap can begin with a character. -/
def beginsGap (c : Char) : Bool :=
  isBlank c && c.toNat ≠ 11

/-- Whether a character is a mark for the order of bytes, which is passed over between lexemes. -/
def isByteOrderMark (c : Char) : Bool :=
  c.toNat = 0xfeff

/-- Whether a character belongs to numbers. -/
def isNumberChar (c : Char) : Bool :=
  c.isDigit || c = '_'

/-- Whether a character is a hexadecimal digit. -/
def isHexadecimal (c : Char) : Bool :=
  c.isDigit || ('a' ≤ c.toLower && c.toLower ≤ 'f')

/-- Whether a character is the single quote. -/
def isSingleQuote (c : Char) : Bool :=
  c.toNat = 0x27

/-- Whether a character opens a text that the same character closes. -/
def isQuote (c : Char) : Bool :=
  isSingleQuote c || c = '"' || c.toNat = 0x60

/-- Whether a character ends the text. -/
def isNul (c : Char) : Bool :=
  c.toNat = 0

/-! ## Lengths -/

/-- How many characters at the front meet a condition. -/
def run (p : Char → Bool) (text : List Char) : Nat :=
  (text.takeWhile p).length

/-- How many characters a quoted text has behind its opening quote, the closing one included, if
there is one.  A quote that is written twice does not close it. -/
def quotedLength? (quote : Char) : List Char → Option Nat
  | [] => none
  | [c] => if c = quote then some 1 else none
  | c :: d :: rest =>
      if c = quote then
        if d = quote then (quotedLength? quote rest).map (· + 2) else some 1
      else (quotedLength? quote (d :: rest)).map (· + 1)

/-- How many characters a comment between `/*` and `*/` has behind its opening, the closing
included; one that is not closed goes on to the end. -/
def commentLength : List Char → Nat
  | [] => 0
  | '*' :: '/' :: _ => 2
  | _ :: rest => commentLength rest + 1

/-- How many characters belong to the exponent in front of a text. -/
def exponentLength : List Char → Nat
  | e :: sign :: rest =>
      if e.toLower ≠ 'e' then 0
      else if sign.isDigit then 2 + run isNumberChar rest
      else if (sign = '+' || sign = '-') && (rest.head?.any Char.isDigit) then
        2 + run isNumberChar rest
      else 0
  | _ => 0

/-- How many characters the number in front of a text has. -/
def numberLength : List Char → Nat
  | '0' :: x :: digit :: rest =>
      if x.toLower = 'x' && isHexadecimal digit then
        3 + run (fun c => isHexadecimal c || c = '_') rest
      else decimalLength ('0' :: x :: digit :: rest)
  | text => decimalLength text
where
  /-- How many characters the decimal number in front of a text has. -/
  decimalLength (text : List Char) : Nat :=
    let whole := run isNumberChar text
    let places := match text.drop whole with
      | '.' :: rest => 1 + run isNumberChar rest
      | _ => 0
    whole + places + exponentLength (text.drop (whole + places))

/-- The marks of two characters. -/
def longMarks : List (Char × Char) :=
  [('=', '='), ('<', '='), ('<', '>'), ('<', '<'), ('>', '='), ('>', '>'), ('!', '='), ('|', '|'),
    ('-', '>')]

/-- The marks of one character. -/
def shortMarks : List Char :=
  ['(', ')', ';', '+', '-', '*', '/', '%', '=', '<', '>', '|', ',', '&', '~', '.']

/-! ## Lexemes -/

/-- The kind and the length of a number; letters must not follow it. -/
def measureNumber (text : List Char) : LexemeKind × Nat :=
  let digits := numberLength text
  match run isWordChar (text.drop digits) with
  | 0 => (.number, digits)
  | more => (.unknown, digits + more)

/-- The kind and the length of bytes between quotes, given from the opening quote on; there are two
digits for each byte. -/
def measureBytes (text : List Char) : LexemeKind × Nat :=
  let digits := run (!isSingleQuote ·) text.tail
  let length := min (digits + 2) text.length
  if length = digits + 2 && (text.tail.take digits).all isHexadecimal && digits % 2 = 0 then
    (.mark, length)
  else (.unknown, length)

/-- The kind and the length of the name of a placeholder; there may be more of it in brackets. -/
def measurePlaceholder (text : List Char) : LexemeKind × Nat :=
  let name := run isWordChar text
  match name, text.drop name with
  | 0, _ => (.unknown, 0)
  | _, '(' :: rest =>
      let inside := run (fun c => !isBlank c && c ≠ ')') rest
      if (rest.drop inside).head? = some ')' then (.mark, name + inside + 2)
      else (.unknown, name + inside + 1)
  | _, _ => (.mark, name)

/-- The kind of the lexeme that begins with a character, and how many characters of what follows
belong to it. -/
def measure (c : Char) (rest : List Char) : LexemeKind × Nat :=
  if beginsGap c then (.gap, run isBlank rest)
  else if isByteOrderMark c then (.gap, 0)
  else if c.toLower = 'x' && rest.head?.any isSingleQuote then measureBytes rest
  else if beginsWord c then (.word, run isWordChar rest)
  else if c.isDigit || (c = '.' && rest.head?.any Char.isDigit) then
    let (kind, length) := measureNumber (c :: rest)
    (kind, length - 1)
  else if isQuote c then
    match quotedLength? c rest with
    | some length => (.quoted, length)
    | none => (.unknown, rest.length)
  else
    match c, rest with
    | '-', '-' :: rest => (.gap, 1 + run (· ≠ '\n') rest)
    | '/', '*' :: d :: rest => (.gap, 1 + commentLength (d :: rest))
    | '[', rest =>
        let length := run (· ≠ ']') rest
        if length < rest.length then (.quoted, length + 1) else (.unknown, length)
    | '?', rest => (.mark, run Char.isDigit rest)
    | '-', '>' :: '>' :: _ => (.mark, 2)
    | c, rest =>
        if ['$', '@', '#', ':'].contains c then measurePlaceholder rest
        else if rest.head?.any fun d => longMarks.contains (c, d) then (.mark, 1)
        else if shortMarks.contains c then (.mark, 0)
        else (.unknown, 0)

/-- The lexemes of a text that begins at a byte. -/
def lexemesFrom (start : Nat) : List Char → List Lexeme
  | [] => []
  | c :: rest =>
      let (kind, length) := measure c rest
      let text := String.ofList (c :: rest.take length)
      ⟨kind, text, start⟩ :: lexemesFrom (start + text.utf8ByteSize) (rest.drop length)
termination_by text => text.length
decreasing_by
  simp only [List.length_drop, List.length_cons]
  omega

/-- **The lexemes of a text**, gaps included. -/
def lexemes (text : String) : List Lexeme :=
  lexemesFrom 0 (text.toList.takeWhile (!isNul ·))

/-- The lexemes make up the text. -/
theorem texts_lexemesFrom (start : Nat) (text : List Char) :
    (lexemesFrom start text).flatMap (·.text.toList) = text := by
  fun_induction lexemesFrom start text with
  | case1 => rfl
  | case2 start c rest kind length _ text ih =>
      simp only [List.flatMap_cons, ih]
      simp [text]

/-! ## Names -/

/-- Whether two names are the same, in upper or lower case. -/
def sameName (a b : String) : Bool :=
  a.toLower == b.toLower

/-- The words that cannot be names. -/
def reservedWords : List String :=
  ["ADD", "ALL", "ALTER", "AND", "AS", "AUTOINCREMENT", "BETWEEN", "CASE", "CHECK", "COLLATE",
    "COMMIT", "CONSTRAINT", "CREATE", "DEFAULT", "DEFERRABLE", "DELETE", "DISTINCT", "DROP", "ELSE",
    "ESCAPE", "EXCEPT", "EXISTS", "FOREIGN", "FROM", "GROUP", "HAVING", "IN", "INDEX", "INSERT",
    "INTERSECT", "INTO", "IS", "ISNULL", "JOIN", "LIMIT", "NOT", "NOTHING", "NOTNULL", "NULL", "ON",
    "OR", "ORDER", "PRIMARY", "REFERENCES", "RETURNING", "SELECT", "SET", "TABLE", "THEN", "TO",
    "TRANSACTION", "UNION", "UNIQUE", "UPDATE", "USING", "VALUES", "WHEN", "WHERE"]

/-- The words that are names only where nothing else can stand. -/
def joiningWords : List String :=
  ["CROSS", "FULL", "INDEXED", "INNER", "LEFT", "NATURAL", "OUTER", "RIGHT"]

/-- A text between quotes, with one quote for each one that is written twice. -/
def undoubled (quote : Char) : List Char → List Char
  | c :: d :: rest =>
      if c = quote ∧ d = quote then c :: undoubled quote rest else c :: undoubled quote (d :: rest)
  | text => text

namespace Lexeme

/-- Whether a lexeme is a word, in upper or lower case. -/
def isWord (word : String) (lexeme : Lexeme) : Bool :=
  lexeme.kind = .word && sameName word lexeme.text

/-- Whether a lexeme is a mark of one character. -/
def isMark (c : Char) (lexeme : Lexeme) : Bool :=
  lexeme.kind = .mark && lexeme.text == String.singleton c

/-- Whether a lexeme ends a statement. -/
def isEnd (lexeme : Lexeme) : Bool :=
  lexeme.isMark ';'

/-- What stands between the quotes of a lexeme. -/
def unquoted (lexeme : Lexeme) : String :=
  match lexeme.text.toList with
  | quote :: rest => String.ofList (undoubled quote rest.dropLast)
  | [] => ""

/-- **The name that a lexeme stands for.** -/
def name? (lexeme : Lexeme) : Option String :=
  match lexeme.kind with
  | .word => if reservedWords.any lexeme.isWord then none else some lexeme.text
  | .quoted => some lexeme.unquoted
  | _ => none

end Lexeme

end Transactional.Sql
