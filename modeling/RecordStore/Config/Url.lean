import RecordStore.Config.Basic

/-!
Connection addresses. Characters that could be taken for a part of the address are written as
percent signs with the code of each byte.
-/

namespace RecordStore.Url

def isUnreserved (byte : UInt8) : Bool :=
  let letter := Char.ofNat byte.toNat
  letter.isAlphanum || letter = '_' || letter = '.' || letter = '-' || letter = '~' ||
    letter = ' ' || letter = '+'

def percentByte (byte : UInt8) : String :=
  "%" ++ String.ofList ((Text.hexText 2 byte.toNat).toList.map Char.toUpper)

/-- A text with all but harmless characters encoded; `keep` names further harmless ones. -/
def encode (keep : UInt8 → Bool) (text : String) : String :=
  String.join (text.toUTF8.toList.map fun byte =>
    if isUnreserved byte || keep byte then String.ofList [Char.ofNat byte.toNat]
    else percentByte byte)

def driver : Adapter → String
  | .mysql => "mysql+aiomysql"
  | .postgres => "postgresql+asyncpg"
  | .sqlite => "sqlite+aiosqlite"

def userPart (masked : Bool) (config : Config) : String :=
  match config.username with
  | none => ""
  | some username =>
    let secret := match config.password with
      | none => ""
      | some password => ":" ++ (if masked then "***" else encode (fun _ => false) password)
    encode (fun _ => false) username ++ secret ++ "@"

def hostPart (config : Config) : String :=
  if config.host.toList.contains ':' then "[" ++ config.host ++ "]" else config.host

def databasePart (config : Config) : String :=
  if config.database.isEmpty then ""
  else "/" ++ encode (fun byte => byte = 47) config.database

def render (masked : Bool) (config : Config) : String :=
  driver config.adapter ++ "://" ++
    match config.adapter with
    | .sqlite => databasePart config
    | _ =>
      userPart masked config ++ hostPart config ++
        (match config.port with
          | some port => ":" ++ toString port
          | none => "") ++ databasePart config

end RecordStore.Url
