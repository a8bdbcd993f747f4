import RecordStore.Sql.ReservedWords

/-!
Databases and the dialects of SQL that they speak: how names are quoted, how truth values are
written and how values are bound.
-/

namespace RecordStore

inductive Adapter where
  | mysql
  | postgres
  | sqlite
  deriving DecidableEq, Repr, Inhabited

namespace Adapter

def all : List Adapter := [mysql, postgres, sqlite]

def name : Adapter → String
  | mysql => "mysql_adapter"
  | postgres => "postgres_adapter"
  | sqlite => "sqlite_adapter"

def constant : Adapter → String
  | mysql => "MYSQL"
  | postgres => "POSTGRES"
  | sqlite => "SQLITE"

def ofName? (name : String) : Option Adapter :=
  all.find? fun adapter => adapter.name == name

end Adapter

/-- The dialect in which a statement is written: that of no particular database, or that of an
adapter's. -/
inductive Dialect where
  | generic
  | adapter (adapter : Adapter)
  deriving DecidableEq, Repr, Inhabited

namespace Dialect

def reservedWords : Dialect → List String
  | .generic => ReservedWords.generic
  | .adapter .sqlite => ReservedWords.sqlite
  | .adapter .postgres => ReservedWords.postgres
  | .adapter .mysql => ReservedWords.mysql

def isPlainLetter (letter : Char) : Bool :=
  ('a' ≤ letter && letter ≤ 'z') || letter.isDigit || letter = '_' || letter = '$'

def needsQuotes (dialect : Dialect) (name : String) : Bool :=
  let startsBadly := match name.toList with
    | first :: _ => first.isDigit || first = '$'
    | [] => true
  startsBadly || !name.toList.all isPlainLetter || dialect.reservedWords.contains name

def nameQuote : Dialect → Char
  | .adapter .mysql => '`'
  | _ => '"'

def identifier (dialect : Dialect) (name : String) : String :=
  if dialect.needsQuotes name then
    let quote := dialect.nameQuote
    let doubled := name.toList.flatMap fun letter =>
      if letter = quote then [letter, letter] else [letter]
    String.ofList (quote :: doubled ++ [quote])
  else name

def hasTruthConstants : Dialect → Bool
  | .adapter .mysql => true
  | .adapter .postgres => true
  | _ => false

def truth (dialect : Dialect) (value : Bool) : String :=
  if dialect.hasTruthConstants then (if value then "true" else "false")
  else (if value then "1" else "0")

/-- The characters of a text literal. MySQL reads backslashes and its driver reads percent signs,
so both are doubled there. -/
def literalLetters (dialect : Dialect) (text : List Char) : List Char :=
  text.flatMap fun letter =>
    if letter = '\'' then ['\'', '\'']
    else if dialect = .adapter .mysql ∧ (letter = '\\' ∨ letter = '%') then [letter, letter]
    else [letter]

def textLiteral (dialect : Dialect) (text : String) : String :=
  "'" ++ String.ofList (dialect.literalLetters text.toList) ++ "'"

end Dialect
end RecordStore
