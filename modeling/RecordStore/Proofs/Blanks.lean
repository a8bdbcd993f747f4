import RecordStore.Proofs.TokenText
import RecordStore.Sql.Render

/-!
Operands show in a statement only as its parameters. A blank takes the place of each operand in tests
and tokens; statements that are the same but for their blanks have the same text, up to the types that
values are cast to.
-/

namespace RecordStore

namespace Token

def blank : Token → Token
  | .word text => .word text
  | .place base _ _ fixed => .place base .untyped .null fixed

theorem map_blank_joinTokens (separator : String) (pieces : List (List Token)) :
    (joinTokens separator pieces).map blank = joinTokens separator (pieces.map (List.map blank)) := by
  induction pieces with
  | nil => rfl
  | cons first rest ih =>
      cases rest with
      | nil => rfl
      | cons second rest =>
          simp only [List.map_cons] at ih
          simp [joinTokens, blank, ih]

theorem countBase_congr {left right : List Token} (same : left.map blank = right.map blank)
    (base : String) : countBase base left = countBase base right := by
  have kept (tokens : List Token) : (tokens.map blank).filterMap base? = tokens.filterMap base? := by
    rw [List.filterMap_map]
    congr 1
    funext token
    cases token <;> rfl
  rw [countBase, countBase, ← kept left, same, kept right]

end Token

namespace Test

def blank : Test → Test
  | .compare column comparison _ => .compare column comparison .null
  | .like column lowered escaping _ => .like column lowered escaping .null
  | .between column _ _ => .between column .null .null
  | test => test

theorem map_blank_tokens_blank (dialect : Dialect) (model : Model) (test : Test) :
    (test.blank.tokens dialect model).map Token.blank =
      (test.tokens dialect model).map Token.blank := by
  cases test with
  | like column lowered escaping pattern =>
      cases lowered <;> cases escaping <;> rfl
  | _ => rfl

end Test

namespace Predicate

def blank (predicate : Predicate) : Predicate := ⟨predicate.alternatives.map Test.blank⟩

variable (dialect : Dialect) (model : Model)

theorem isVoid_blank (predicate : Predicate) : predicate.blank.isVoid = predicate.isVoid := by
  simp [isVoid, blank]

theorem map_blank_tokens_blank (predicate : Predicate) :
    (predicate.blank.tokens dialect model).map Token.blank =
      (predicate.tokens dialect model).map Token.blank := by
  simp only [tokens, Token.map_blank_joinTokens, blank, List.map_map]
  congr 1
  refine List.map_congr_left fun test _ => ?_
  exact Test.map_blank_tokens_blank dialect model test

theorem map_blank_groupedTokens_blank (predicate : Predicate) :
    (predicate.blank.groupedTokens dialect model).map Token.blank =
      (predicate.groupedTokens dialect model).map Token.blank := by
  have same := map_blank_tokens_blank dialect model predicate
  rcases predicate with ⟨_ | ⟨first, _ | ⟨second, rest⟩⟩⟩
  · exact same
  · exact same
  · simpa [groupedTokens, blank, Token.blank] using same

theorem map_blank_conjunctionTokens_blank (predicates : List Predicate) :
    (conjunctionTokens dialect model (predicates.map blank)).map Token.blank =
      (conjunctionTokens dialect model predicates).map Token.blank := by
  have kept : (fun predicate : Predicate => !predicate.isVoid) ∘ blank =
      fun predicate => !predicate.isVoid := by
    funext predicate
    simp [isVoid_blank]
  simp only [conjunctionTokens, Token.map_blank_joinTokens, List.filter_map, kept, List.map_map,
    List.length_map]
  congr 1
  refine List.map_congr_left fun predicate _ => ?_
  dsimp only [Function.comp]
  split
  · exact map_blank_tokens_blank dialect model predicate
  · exact map_blank_groupedTokens_blank dialect model predicate

theorem map_blank_whereTokens_blank (predicates : List Predicate) :
    (whereTokens dialect model (predicates.map blank)).map Token.blank =
      (whereTokens dialect model predicates).map Token.blank := by
  have same := map_blank_conjunctionTokens_blank dialect model predicates
  unfold whereTokens
  cases left : conjunctionTokens dialect model (predicates.map blank) with
  | nil =>
      cases right : conjunctionTokens dialect model predicates with
      | nil => rfl
      | cons token tokens => simp [left, right] at same
  | cons token tokens =>
      cases right : conjunctionTokens dialect model predicates with
      | nil => simp [left, right] at same
      | cons other others =>
          rw [left, right] at same
          simp [same]

end Predicate

theorem map_blank_windowTokens_blank (dialect : Dialect) (limit offset : Option Int) :
    (windowTokens dialect (limit.map fun _ => 1) (offset.map fun _ => 1)).map Token.blank =
      (windowTokens dialect limit offset).map Token.blank := by
  cases dialect with
  | generic => cases limit <;> cases offset <;> rfl
  | adapter adapter => cases adapter <;> cases limit <;> cases offset <;> rfl

def Selection.blank (selection : Selection) : Selection where
  model := selection.model
  predicates := selection.predicates.map Predicate.blank
  order := selection.order
  limit := selection.limit.map fun _ => 1
  offset := selection.offset.map fun _ => 1

theorem Selection.map_blank_tokens_blank (dialect : Dialect) (selection : Selection) :
    (selection.blank.tokens dialect).map Token.blank =
      (selection.tokens dialect).map Token.blank := by
  simp [tokens, blank, Predicate.map_blank_whereTokens_blank, map_blank_windowTokens_blank]

def Counting.blank (counting : Counting) : Counting where
  model := counting.model
  predicates := counting.predicates.map Predicate.blank

theorem Counting.map_blank_tokens_blank (dialect : Dialect) (counting : Counting) :
    (counting.blank.tokens dialect).map Token.blank = (counting.tokens dialect).map Token.blank := by
  simp [tokens, blank, Predicate.map_blank_whereTokens_blank]

def BindType.castText (type : BindType) : String :=
  match type.castName? with
  | some cast => "::" ++ cast
  | none => ""

namespace SqlText

inductive SameButForCasts : String → String → Prop
  | empty : SameButForCasts "" ""
  | word (text : String) {left right : String} (rest : SameButForCasts left right) :
      SameButForCasts (text ++ left) (text ++ right)
  | mark (position : Nat) (type other : BindType) {left right : String}
      (rest : SameButForCasts left right) :
      SameButForCasts ("$" ++ toString position ++ type.castText ++ left)
        ("$" ++ toString position ++ other.castText ++ right)

/-- Two texts are the same but for the values of their parameters and, in the dialect that casts, for
the types that these are cast to. -/
structure Alike (dialect : Dialect) (left right : SqlText) : Prop where
  text : dialect ≠ .adapter .postgres → left.text = right.text
  cast : dialect = .adapter .postgres → SameButForCasts left.text right.text
  names : left.parameters.map Prod.fst = right.parameters.map Prod.fst

theorem mark_congr {dialect : Dialect} (plain : dialect ≠ .adapter .postgres) (position : Nat)
    (name : String) (type other : BindType) :
    NamedToken.mark dialect position name type = NamedToken.mark dialect position name other := by
  rcases dialect with _ | ⟨_ | _ | _⟩
  · rfl
  · rfl
  · exact absurd rfl plain
  · rfl

theorem mark_postgres (position : Nat) (name : String) (type : BindType) :
    NamedToken.mark (.adapter .postgres) position name type =
      "$" ++ toString position ++ type.castText := rfl

theorem alike_behind {left right : List Token} (same : left.map Token.blank = right.map Token.blank)
    (dialect : Dialect) (before : List Token) :
    Alike dialect (behind dialect before left) (behind dialect before right) := by
  induction left generalizing right before with
  | nil =>
      obtain rfl := List.map_eq_nil_iff.mp same.symm
      exact ⟨fun _ => rfl, fun _ => .empty, rfl⟩
  | cons token left ih =>
      obtain ⟨other, right, rfl, head, tail⟩ := List.map_eq_cons_iff.mp same.symm
      have rest := ih tail.symm (before ++ [token])
      cases token with
      | word text =>
          cases other with
          | place => cases head
          | word text =>
              cases head
              rw [behind_append_word, behind_append_word] at rest
              rw [behind_word, behind_word]
              exact ⟨fun plain => congrArg (text ++ ·) (rest.text plain),
                fun casts => .word text (rest.cast casts), rest.names⟩
      | place base type value fixed =>
          cases other with
          | word text => cases head
          | place base other operand fixed =>
              cases head
              -- The places in front differ in their values only, which no later name shows.
              have behindOther : behind dialect (before ++ [.place base type value fixed]) right =
                  behind dialect (before ++ [.place base other operand fixed]) right := by
                refine behind_congr (by simp) (fun counted => ?_) dialect right
                exact Token.countBase_congr (by simp [Token.blank]) counted
              rw [behindOther] at rest
              rw [behind_place, behind_place]
              refine ⟨fun plain => ?_, fun casts => ?_, ?_⟩
              · dsimp only
                rw [rest.text plain, mark_congr plain _ _ type other]
              · subst casts
                dsimp only
                rw [mark_postgres, mark_postgres]
                exact .mark _ type other (rest.cast rfl)
              · exact congrArg (_ :: ·) rest.names

end SqlText

theorem Selection.alike_render {left right : Selection} (same : left.blank = right.blank)
    (dialect : Dialect) : SqlText.Alike dialect (left.render dialect) (right.render dialect) := by
  refine SqlText.alike_behind ?_ dialect []
  rw [← map_blank_tokens_blank dialect left, same, map_blank_tokens_blank]

theorem Counting.alike_render {left right : Counting} (same : left.blank = right.blank)
    (dialect : Dialect) : SqlText.Alike dialect (left.render dialect) (right.render dialect) := by
  refine SqlText.alike_behind ?_ dialect []
  rw [← map_blank_tokens_blank dialect left, same, map_blank_tokens_blank]

end RecordStore
