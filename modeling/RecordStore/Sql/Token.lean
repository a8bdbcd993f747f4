import RecordStore.Number.Shortest
import RecordStore.Sql.Dialect
import RecordStore.Value.Display

/-!
Statement text as tokens: words, and the places of bound values. Each place has a base name; it is
named after it and after how many places of that base came before. The text of a statement is
written only from its tokens, so that a value shows in it only through its place.
-/

namespace RecordStore

inductive BindType where
  | untyped
  | integer
  | bigInteger
  | text
  | boolean
  | float
  | numeric
  | moment
  | bytes
  deriving DecidableEq, Repr, Inhabited

namespace BindType

def castName? : BindType → Option String
  | untyped => none
  | integer => some "INTEGER"
  | bigInteger => some "BIGINT"
  | text => some "VARCHAR"
  | boolean => some "BOOLEAN"
  | float => some "FLOAT"
  | numeric => some "NUMERIC"
  | moment => some "TIMESTAMP WITHOUT TIME ZONE"
  | bytes => some "BYTEA"

/-- The type that a value has by itself. An integer of more than 31 bits is a big one. -/
def ofValue : Value → BindType
  | .integer value => if value.natAbs < 2147483648 then integer else bigInteger
  | .text _ => text
  | .boolean _ => boolean
  | .float _ => float
  | .decimal _ => numeric
  | .moment _ => moment
  | .bytes _ => bytes
  | _ => untyped

def kind : BindType → BindType
  | bigInteger => integer
  | numeric => float
  | type => type

/-- The type of a value that is compared with a column: the column's, unless the value is of
another kind. -/
def against (column : BindType) (value : Value) : BindType :=
  let own := ofValue value
  if own = untyped ∨ own.kind = column.kind then column else own

end BindType

inductive Token where
  | word (text : String)
  /-- A value to be bound. A fixed one is bound also where values are written out. -/
  | place (base : String) (type : BindType) (value : Value) (fixed : Bool)

inductive NamedToken where
  | word (text : String)
  | place (name : String) (type : BindType) (value : Value)

structure SqlText where
  text : String
  parameters : List (String × Value)

namespace Token

def base? : Token → Option String
  | .word _ => none
  | .place base .. => some base

def countBase (base : String) (tokens : List Token) : Nat :=
  (tokens.filterMap base?).count base

def placeName (base : String) (earlier : Nat) : String := base ++ "_" ++ toString (earlier + 1)

def nameFrom (before : List Token) : List Token → List NamedToken
  | [] => []
  | token :: rest =>
    let named := match token with
      | .word text => NamedToken.word text
      | .place base type value _ =>
        NamedToken.place (placeName base (countBase base before)) type value
    named :: nameFrom (before ++ [token]) rest

def valueText (dialect : Dialect) : Value → String
  | .null => "NULL"
  | .boolean value => dialect.truth value
  | .text value => dialect.textLiteral value
  | value =>
    match value.asText? with
    | some text => dialect.textLiteral text
    | none => value.plain

def writeOut (dialect : Dialect) : Token → Token
  | .place base type value fixed =>
    if fixed then .place base type value fixed else .word (valueText dialect value)
  | token => token

end Token

namespace NamedToken

def mark (dialect : Dialect) (position : Nat) (name : String) (type : BindType) : String :=
  match dialect with
  | .generic => ":" ++ name
  | .adapter .sqlite => "?"
  | .adapter .mysql => "%s"
  | .adapter .postgres =>
    "$" ++ toString position ++ (match type.castName? with
      | some cast => "::" ++ cast
      | none => "")

def pieces (dialect : Dialect) : Nat → List NamedToken → List String
  | _, [] => []
  | position, .word text :: rest => text :: pieces dialect position rest
  | position, .place name type _ :: rest =>
    mark dialect position name type :: pieces dialect (position + 1) rest

def parameter? : NamedToken → Option (String × Value)
  | .word _ => none
  | .place name _ value => some (name, value)

end NamedToken

def SqlText.ofTokens (dialect : Dialect) (tokens : List Token) : SqlText :=
  let named := Token.nameFrom [] tokens
  ⟨String.join (NamedToken.pieces dialect 1 named), named.filterMap NamedToken.parameter?⟩

end RecordStore
