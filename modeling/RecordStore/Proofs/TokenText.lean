import RecordStore.Sql.Token

/-!
The text of tokens that stand behind others. The tokens in front show in it only through the numbers
of its places, so that the text of a list of tokens is that of its parts put together.
-/

namespace RecordStore

namespace Token

def placeCount (tokens : List Token) : Nat := (tokens.filterMap base?).length

@[simp] theorem placeCount_nil : placeCount [] = 0 := rfl

@[simp] theorem placeCount_word (text : String) (tokens : List Token) :
    placeCount (.word text :: tokens) = placeCount tokens := rfl

@[simp] theorem placeCount_place (base : String) (type : BindType) (value : Value) (fixed : Bool)
    (tokens : List Token) :
    placeCount (.place base type value fixed :: tokens) = placeCount tokens + 1 := rfl

@[simp] theorem placeCount_append (left right : List Token) :
    placeCount (left ++ right) = placeCount left + placeCount right := by
  simp [placeCount]

theorem countBase_append (base : String) (left right : List Token) :
    countBase base (left ++ right) = countBase base left + countBase base right := by
  simp [countBase]

theorem nameFrom_congr {before other : List Token}
    (same : ∀ base, countBase base before = countBase base other) (tokens : List Token) :
    nameFrom before tokens = nameFrom other tokens := by
  induction tokens generalizing before other with
  | nil => rfl
  | cons token rest ih =>
      have longer (base : String) :
          countBase base (before ++ [token]) = countBase base (other ++ [token]) := by
        rw [countBase_append, countBase_append, same]
      cases token with
      | word text => simp only [nameFrom, ih longer]
      | place base type value fixed => simp only [nameFrom, same, ih longer]

theorem nameFrom_append (before left right : List Token) :
    nameFrom before (left ++ right) = nameFrom before left ++ nameFrom (before ++ left) right := by
  induction left generalizing before with
  | nil => simp [nameFrom]
  | cons token rest ih => simp [nameFrom, ih]

end Token

namespace NamedToken

theorem pieces_nameFrom_append (dialect : Dialect) (position : Nat) (before tokens : List Token)
    (later : List NamedToken) :
    pieces dialect position (Token.nameFrom before tokens ++ later) =
      pieces dialect position (Token.nameFrom before tokens) ++
        pieces dialect (position + Token.placeCount tokens) later := by
  induction tokens generalizing position before with
  | nil => rfl
  | cons token rest ih =>
      cases token with
      | word text => simp [Token.nameFrom, pieces, ih]
      | place base type value fixed =>
          simp [Token.nameFrom, pieces, ih, Nat.add_assoc, Nat.add_comm 1]

end NamedToken

namespace SqlText

instance : Append SqlText where
  append left right := ⟨left.text ++ right.text, left.parameters ++ right.parameters⟩

@[simp] theorem text_append (left right : SqlText) : (left ++ right).text = left.text ++ right.text :=
  rfl

@[simp] theorem parameters_append (left right : SqlText) :
    (left ++ right).parameters = left.parameters ++ right.parameters := rfl

def behind (dialect : Dialect) (before tokens : List Token) : SqlText :=
  let named := Token.nameFrom before tokens
  ⟨String.join (NamedToken.pieces dialect (Token.placeCount before + 1) named),
    named.filterMap NamedToken.parameter?⟩

theorem ofTokens_eq_behind (dialect : Dialect) (tokens : List Token) :
    ofTokens dialect tokens = behind dialect [] tokens := rfl

theorem behind_nil (dialect : Dialect) (before : List Token) : behind dialect before [] = ⟨"", []⟩ :=
  rfl

/-- Tokens in front show in the text only through how many places they hold of each base, and of all
together. -/
theorem behind_congr {before other : List Token}
    (count : Token.placeCount before = Token.placeCount other)
    (bases : ∀ base, Token.countBase base before = Token.countBase base other)
    (dialect : Dialect) (tokens : List Token) :
    behind dialect before tokens = behind dialect other tokens := by
  simp only [behind, count, Token.nameFrom_congr bases]

theorem behind_append_word (dialect : Dialect) (before : List Token) (text : String)
    (tokens : List Token) :
    behind dialect (before ++ [.word text]) tokens = behind dialect before tokens := by
  refine behind_congr (by simp) (fun base => ?_) dialect tokens
  rw [Token.countBase_append]
  rfl

theorem behind_word (dialect : Dialect) (before : List Token) (text : String) (tokens : List Token) :
    behind dialect before (.word text :: tokens) =
      ⟨text ++ (behind dialect before tokens).text, (behind dialect before tokens).parameters⟩ := by
  rw [← behind_append_word dialect before text tokens]
  simp only [behind, Token.nameFrom, NamedToken.pieces, String.join_cons, Token.placeCount_append]
  rfl

theorem behind_place (dialect : Dialect) (before : List Token) (base : String) (type : BindType)
    (value : Value) (fixed : Bool) (tokens : List Token) :
    behind dialect before (.place base type value fixed :: tokens) =
      let name := Token.placeName base (Token.countBase base before)
      let rest := behind dialect (before ++ [.place base type value fixed]) tokens
      ⟨NamedToken.mark dialect (Token.placeCount before + 1) name type ++ rest.text,
        (name, value) :: rest.parameters⟩ := by
  simp only [behind, Token.nameFrom, Token.placeCount_append, NamedToken.pieces, String.join_cons]
  rfl

theorem behind_append (dialect : Dialect) (before left right : List Token) :
    behind dialect before (left ++ right) =
      behind dialect before left ++ behind dialect (before ++ left) right := by
  have pieced := NamedToken.pieces_nameFrom_append dialect (Token.placeCount before + 1) before left
    (Token.nameFrom (before ++ left) right)
  have counted : Token.placeCount (before ++ left) + 1 =
      Token.placeCount before + 1 + Token.placeCount left := by
    rw [Token.placeCount_append]
    omega
  simp only [behind, Token.nameFrom_append, pieced, String.join_append, List.filterMap_append,
    counted]
  rfl

end SqlText
end RecordStore
