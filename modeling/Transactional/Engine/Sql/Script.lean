import Transactional.Engine.Sql.Lexeme

/-!
# Scripts

A script is a row of statements.  A semicolon ends a statement; one with nothing in front of it
means nothing.

* `Sql.statementLexemes` — the lexemes of the first statement of a script.
* `Sql.textsFromStatements` — a script from the beginning of each of its statements on.
-/

namespace Transactional.Sql

/-- **The lexemes of the first statement of a script**, with the semicolon behind it and without
gaps. -/
def statementLexemes (script : String) : List Lexeme :=
  let lexemes := ((lexemes script).filter (·.kind ≠ .gap)).dropWhile Lexeme.isEnd
  lexemes.takeWhile (!·.isEnd) ++ (lexemes.dropWhile (!·.isEnd)).take 1

/-- How many characters there are up to the end of each statement that is ended, if there are some
before the lexemes given; `inside` says whether they belong to a statement. -/
def statementEnds (before : Nat) (inside : Bool) : List Lexeme → List Nat
  | [] => []
  | lexeme :: rest =>
      let before := before + lexeme.text.length
      if lexeme.isEnd then
        if inside then before :: statementEnds before false rest
        else statementEnds before false rest
      else statementEnds before (inside || lexeme.kind ≠ .gap) rest

/-- **The texts of a script**, each from the beginning of one of its statements to the end of the
script.  What stands in front of a statement belongs to it. -/
def textsFromStatements (script : String) : List String :=
  let starts := 0 :: statementEnds 0 false (lexemes script)
  (starts.map fun start => String.ofList (script.toList.drop start)).filter (· ≠ "")

end Transactional.Sql
