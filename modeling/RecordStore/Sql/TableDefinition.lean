import RecordStore.Sql.Render

/-!
The statement that creates a model's table.
-/

namespace RecordStore.TableDefinition

/-- The name of a text type; MySQL cannot leave its length out. -/
def textType (dialect : Dialect) (model : Model) (attr : Attribute) (length : Option Nat) :
    Except Failure String :=
  match length, dialect with
  | some length, _ => .ok ("VARCHAR(" ++ toString length ++ ")")
  | none, .adapter .mysql => .error (.lengthRequired model.table attr.column)
  | none, _ => .ok "VARCHAR"

def columnType (dialect : Dialect) (model : Model) (attr : Attribute) : Except Failure String :=
  match attr.type, dialect with
  | .text length, dialect => textType dialect model attr length
  | .integer, _ => .ok "INTEGER"
  | .boolean, .adapter .mysql => .ok "BOOL"
  | .boolean, _ => .ok "BOOLEAN"
  | .float, _ => .ok "FLOAT"
  | .moment, .adapter .postgres => .ok "TIMESTAMP WITHOUT TIME ZONE"
  | .moment, _ => .ok "DATETIME"

def identityClause : Dialect → String
  | .adapter .postgres => "BIGSERIAL NOT NULL"
  | .adapter .mysql => "INTEGER NOT NULL AUTO_INCREMENT"
  | _ => "INTEGER NOT NULL"

def timestampClause : Dialect → String
  | .adapter .mysql => " NOT NULL DEFAULT CURRENT_TIMESTAMP"
  | _ => " DEFAULT CURRENT_TIMESTAMP NOT NULL"

def isTimestamp (attr : Attribute) : Bool :=
  attr.name == Attribute.created.name || attr.name == Attribute.updated.name

def columnClause (dialect : Dialect) (model : Model) (attr : Attribute) :
    Except Failure String := do
  let name := dialect.identifier attr.column
  if attr.name = Attribute.identity.name then pure (name ++ " " ++ identityClause dialect)
  else
    let type ← columnType dialect model attr
    if isTimestamp attr then pure (name ++ " " ++ type ++ timestampClause dialect)
    else pure (name ++ " " ++ type ++ (if attr.nullable then "" else " NOT NULL"))

def render (dialect : Dialect) (model : Model) : Except Failure String := do
  let columns ← model.attributes.mapM (columnClause dialect model)
  let key := "PRIMARY KEY (" ++ dialect.identifier Attribute.identity.column ++ ")"
  let unique := (model.attributes.filter Attribute.unique).map fun attr =>
    "UNIQUE (" ++ dialect.identifier attr.column ++ ")"
  pure ("CREATE TABLE " ++ dialect.identifier model.table ++ " (\n\t" ++
    String.intercalate ", \n\t" (columns ++ [key] ++ unique) ++ "\n)")

end RecordStore.TableDefinition
