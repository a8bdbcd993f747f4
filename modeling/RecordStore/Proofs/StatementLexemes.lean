import RecordStore.Proofs.TokenLexemes

/-!
The lexemes of predicates and selections. In the text of a selection the only `where` is the one before
its restriction, and the first `order` or `limit` behind that ends it.
-/

namespace RecordStore

open Scanner

theorem forall_mem_intercalate {α : Type} {Holds : α → Prop} {separator : List α} {pieces : List (List α)}
    (between : ∀ item ∈ separator, Holds item) (inside : ∀ piece ∈ pieces, ∀ item ∈ piece, Holds item) :
    ∀ item ∈ separator.intercalate pieces, Holds item := by
  induction pieces with
  | nil => simp
  | cons first rest ih =>
      obtain ⟨insideFirst, insideRest⟩ := List.forall_mem_cons.mp inside
      cases rest with
      | nil => simpa using insideFirst
      | cons second rest =>
          intro item found
          rw [List.intercalate_cons_cons, List.append_assoc, List.mem_append, List.mem_append] at found
          rcases found with found | found | found
          · exact insideFirst item found
          · exact between item found
          · exact ih insideRest item found

namespace Token

variable {dialect : Dialect} {left right : List Token} {lexemes others : List Lexeme}

theorem Reads.join {separator : String} {between : List Lexeme} (starts : StartsApart dialect separator)
    (closes : Closes dialect separator between) {α : Type} {tokens : α → List Token}
    {lexemes : α → List Lexeme} {items : List α}
    (reads : ∀ item ∈ items, Reads dialect (tokens item) (lexemes item)) (nonempty : items ≠ []) :
    Reads dialect (joinTokens separator (items.map tokens))
      (between.intercalate (items.map lexemes)) := by
  induction items with
  | nil => exact absurd rfl nonempty
  | cons first rest ih =>
      obtain ⟨readsFirst, readsRest⟩ := List.forall_mem_cons.mp reads
      cases rest with
      | nil => simpa [joinTokens] using readsFirst
      | cons second rest =>
          have later := ih readsRest (List.cons_ne_nil _ _)
          have joined := readsFirst.append starts (later.cons closes)
          simpa [joinTokens] using joined

/-- Tokens that may be left out are read as lexemes, and start apart from what is before them. -/
inductive Follows (dialect : Dialect) : List Token → List Lexeme → Prop
  | nothing : Follows dialect [] []
  | word {text : String} {tokens : List Token} {lexemes : List Lexeme}
      (starts : StartsApart dialect text) (reads : Reads dialect (.word text :: tokens) lexemes) :
      Follows dialect (.word text :: tokens) lexemes

theorem Reads.append_follows (first : Reads dialect left lexemes)
    (second : Follows dialect right others) :
    Reads dialect (left ++ right) (lexemes ++ others) := by
  cases second with
  | nothing => simpa using first
  | word starts reads => exact first.append starts reads

theorem Reads.lexemes?_ofTokens (reads : Reads dialect left lexemes) :
    (SqlText.ofTokens dialect left).lexemes? dialect = some lexemes := by
  obtain ⟨mode, early, last, rests, rfl, scans⟩ := reads []
  have scanned := scans []
  rw [List.append_nil] at scanned
  rw [SqlText.ofTokens_eq_behind, SqlText.lexemes?]
  show (scan dialect _ _ >>= _) = _
  rw [placeCount_nil, Nat.zero_add] at scanned
  rw [scanned]
  show (mode.last? >>= _) = _
  rw [rests.last?_eq]
  rfl

end Token

namespace Predicate

variable {dialect : Dialect} {model : Model}

def lexemes (dialect : Dialect) (model : Model) (predicate : Predicate) : List Lexeme :=
  [.keyword .either].intercalate (predicate.alternatives.map (Test.lexemes dialect model))

def groupedLexemes (dialect : Dialect) (model : Model) (predicate : Predicate) : List Lexeme :=
  match predicate.alternatives with
  | _ :: _ :: _ => [.symbol '('] ++ (predicate.lexemes dialect model ++ [.symbol ')'])
  | _ => predicate.lexemes dialect model

theorem reads_tokens {predicate : Predicate} (restricts : predicate.isVoid = false) :
    Token.Reads dialect (predicate.tokens dialect model) (predicate.lexemes dialect model) := by
  have or : Closes dialect " OR " [.keyword .either] := closes_sign (by simp [signs])
  refine .join (startsApart_of rfl (by decide)) or (fun test _ => Test.reads_tokens model test) ?_
  simpa [isVoid] using restricts

theorem reads_groupedTokens {predicate : Predicate} (restricts : predicate.isVoid = false) :
    Token.Reads dialect (predicate.groupedTokens dialect model)
      (predicate.groupedLexemes dialect model) := by
  have alone : Token.Reads dialect (predicate.tokens dialect model) _ := reads_tokens restricts
  have opens : Closes dialect "(" [.symbol '('] := closes_sign (by simp [signs])
  have closes : Closes dialect ")" [.symbol ')'] := closes_sign (by simp [signs])
  have inside := alone.append (startsApart_of rfl (by decide)) (.word closes.ends)
  rcases predicate with ⟨_ | ⟨first, _ | ⟨second, rest⟩⟩⟩
  · exact alone
  · exact alone
  · exact .cons opens inside

def kept (predicates : List Predicate) : List Predicate :=
  predicates.filter fun predicate => !predicate.isVoid

def lexemesAmong (dialect : Dialect) (model : Model) (predicates : List Predicate)
    (predicate : Predicate) : List Lexeme :=
  if predicates.length ≤ 1 then predicate.lexemes dialect model
  else predicate.groupedLexemes dialect model

def conjunctionLexemes (dialect : Dialect) (model : Model) (predicates : List Predicate) : List Lexeme :=
  [.keyword .both].intercalate ((kept predicates).map (lexemesAmong dialect model predicates))

theorem reads_conjunctionTokens {predicates : List Predicate} (restricts : kept predicates ≠ []) :
    Token.Reads dialect (conjunctionTokens dialect model predicates)
      (conjunctionLexemes dialect model predicates) := by
  have and : Closes dialect " AND " [.keyword .both] := closes_sign (by simp [signs])
  refine .join (startsApart_of rfl (by decide)) and (fun predicate found => ?_) restricts
  have notVoid : predicate.isVoid = false := by simpa using (List.mem_filter.mp found).2
  unfold lexemesAmong
  split
  · exact reads_tokens notVoid
  · exact reads_groupedTokens notVoid

theorem joinTokens_ne_nil {separator : String} {first : List Token} (written : first ≠ [])
    (rest : List (List Token)) : joinTokens separator (first :: rest) ≠ [] := by
  cases rest with
  | nil => simpa [joinTokens] using written
  | cons second rest => simp [joinTokens]

theorem tokens_ne_nil {predicate : Predicate} (restricts : predicate.isVoid = false) :
    predicate.tokens dialect model ≠ [] := by
  rcases predicate with ⟨_ | ⟨first, rest⟩⟩
  · cases restricts
  · refine joinTokens_ne_nil ?_ _
    cases first <;> simp [Test.tokens]

theorem groupedTokens_ne_nil {predicate : Predicate} (restricts : predicate.isVoid = false) :
    predicate.groupedTokens dialect model ≠ [] := by
  unfold groupedTokens
  split
  · simp
  · exact tokens_ne_nil restricts

theorem conjunctionTokens_eq_nil_iff {predicates : List Predicate} :
    conjunctionTokens dialect model predicates = [] ↔ kept predicates = [] := by
  unfold conjunctionTokens
  change joinTokens " AND " ((kept predicates).map _) = [] ↔ _
  cases restricting : kept predicates with
  | nil => exact iff_of_true rfl rfl
  | cons first rest =>
      have listed : first ∈ kept predicates := restricting ▸ List.mem_cons_self
      have restricts : first.isVoid = false := by simpa using (List.mem_filter.mp listed).2
      refine iff_of_false (joinTokens_ne_nil ?_ _) (List.cons_ne_nil _ _)
      split
      · exact tokens_ne_nil restricts
      · exact groupedTokens_ne_nil restricts

def whereLexemes (dialect : Dialect) (model : Model) (predicates : List Predicate) : List Lexeme :=
  if (kept predicates).isEmpty then []
  else .keyword .restrict :: conjunctionLexemes dialect model predicates

theorem follows_whereTokens (predicates : List Predicate) :
    Token.Follows dialect (whereTokens dialect model predicates)
      (whereLexemes dialect model predicates) := by
  have opens : Closes dialect " \nWHERE " [.keyword .restrict] := closes_sign (by simp [signs])
  unfold whereTokens
  split
  · rename_i empty
    rw [whereLexemes, conjunctionTokens_eq_nil_iff.mp empty]
    exact .nothing
  · rename_i written
    have restricts : kept predicates ≠ [] := fun empty =>
      written (conjunctionTokens_eq_nil_iff.mpr empty)
    rw [whereLexemes, if_neg (by simpa using restricts)]
    exact .word (startsApart_of rfl (by decide)) (.cons opens (reads_conjunctionTokens restricts))

end Predicate

theorem Scanner.ends_commaSeparated {dialect : Dialect} {α : Type} {text : α → String}
    {lexemes : α → List Lexeme} {items : List α} (ends : ∀ item, Ends dialect (text item) (lexemes item))
    (nonempty : items ≠ []) : Ends dialect (Value.commaSeparated (items.map text))
      ([.symbol ','].intercalate (items.map lexemes)) := by
  have comma : Closes dialect ", " [.symbol ','] := closes_sign (by simp [signs])
  induction items with
  | nil => exact absurd rfl nonempty
  | cons first rest ih =>
      cases rest with
      | nil => simpa [Value.commaSeparated, String.intercalate_singleton] using ends first
      | cons second rest =>
          have later := ih (List.cons_ne_nil _ _)
          have apart : StartsApart dialect ", " := startsApart_of rfl (by decide)
          have both := ((ends first).append_closes apart comma).append_ends later
          simpa [Value.commaSeparated, String.intercalate_cons_cons] using both

def Model.headLexemes (model : Model) : List Lexeme :=
  [.name "select"] ++ [.symbol ','].intercalate (model.attributes.map (Attribute.lexemes model)) ++
    [.name "from"] ++ [.name model.table]

theorem ends_head (dialect : Dialect) (model : Model) :
    Ends dialect ("SELECT " ++ columnList dialect model ++ " \nFROM " ++ dialect.identifier model.table)
      model.headLexemes := by
  have select : Closes dialect "SELECT " [.name "select"] := closes_sign (by simp [signs])
  have source : Closes dialect " \nFROM " [.name "from"] := closes_sign (by simp [signs])
  have columns : Ends dialect (columnList dialect model) _ :=
    ends_commaSeparated (ends_reference model) (by simp [Model.attributes, Attribute.base])
  have listed := (select.append_ends columns).append_closes (startsApart_of rfl (by decide)) source
  exact listed.append_ends (ends_identifier model.table)

/-- Whether lexemes may stand behind a restriction: they begin with what ends one, and open none. -/
structure Lexeme.IsTail (lexemes : List Lexeme) : Prop where
  ends : ∀ first ∈ lexemes.head?, first = .keyword .sort ∨ first = .keyword .cut
  opensNone : ∀ lexeme ∈ lexemes, lexeme ≠ .keyword .restrict

theorem Lexeme.IsTail.append {first second : List Lexeme} (isTail : IsTail first)
    (isTailToo : IsTail second) : IsTail (first ++ second) := by
  constructor
  · cases first with
    | nil => exact isTailToo.ends
    | cons lexeme rest => exact isTail.ends
  · intro lexeme found
    rcases List.mem_append.mp found with found | found
    · exact isTail.opensNone lexeme found
    · exact isTailToo.opensNone lexeme found

theorem lexemes_noKeyword (model : Model) (attr : Attribute) (keyword : Keyword) :
    ∀ lexeme ∈ attr.lexemes model, lexeme ≠ .keyword keyword := by
  simp [Attribute.lexemes]

theorem headLexemes_noKeyword (model : Model) (keyword : Keyword) :
    ∀ lexeme ∈ model.headLexemes, lexeme ≠ .keyword keyword := by
  have columns : ∀ lexeme ∈ [Lexeme.symbol ','].intercalate
      (model.attributes.map (Attribute.lexemes model)), lexeme ≠ .keyword keyword := by
    refine forall_mem_intercalate (by simp) fun piece listed => ?_
    obtain ⟨attr, _, rfl⟩ := List.mem_map.mp listed
    exact lexemes_noKeyword model attr keyword
  intro lexeme found
  simp only [Model.headLexemes, List.mem_append, List.mem_singleton] at found
  rcases found with ((rfl | found) | rfl) | rfl
  · simp
  · exact columns lexeme found
  · simp
  · simp

def Direction.lexemes : Option Direction → List Lexeme
  | some .ascending => [.name "asc"]
  | some .descending => [.name "desc"]
  | none => []

theorem ends_orderText {dialect : Dialect} (model : Model) (term : Attribute × Option Direction) :
    Ends dialect (orderText dialect model term)
      (term.1.lexemes model ++ Direction.lexemes term.2) := by
  obtain ⟨attr, direction⟩ := term
  cases direction with
  | none => simpa [orderText, Direction.lexemes] using ends_reference model attr
  | some direction =>
      have named : Ends dialect (" " ++ direction.name) (Direction.lexemes (some direction)) := by
        refine fun position => ⟨.word direction.name.toList, [], _, .word _, ?_, fun later => ?_⟩
        · cases direction <;> rfl
        · cases direction <;> rcases dialect with _ | ⟨_ | _ | _⟩ <;> rfl
      have starts : StartsApart dialect (" " ++ direction.name) := by
        cases direction <;> exact startsApart_of rfl (by decide)
      exact (ends_reference model attr).append starts named

def orderLexemes (model : Model) (order : List (Attribute × Option Direction)) : List Lexeme :=
  if order.isEmpty then []
  else .keyword .sort :: .name "by" :: [.symbol ','].intercalate
    (order.map fun term => term.1.lexemes model ++ Direction.lexemes term.2)

theorem follows_orderTokens (dialect : Dialect) (model : Model)
    (order : List (Attribute × Option Direction)) :
    Token.Follows dialect (orderTokens dialect model order) (orderLexemes model order) := by
  unfold orderTokens orderLexemes
  split
  · exact .nothing
  · rename_i given
    have opens : Closes dialect " ORDER BY " [.keyword .sort, .name "by"] :=
      closes_sign (by simp [signs])
    have terms : Ends dialect (Value.commaSeparated (order.map (orderText dialect model))) _ :=
      ends_commaSeparated (ends_orderText model) (by simpa using given)
    have starts : StartsApart dialect
        (" ORDER BY " ++ Value.commaSeparated (order.map (orderText dialect model))) := by
      refine startsApart_of (by rw [String.toList_append]; rfl) (List.mem_cons_self)
    exact .word starts (.word (opens.append_ends terms))

theorem orderLexemes_noKeyword (model : Model) (order : List (Attribute × Option Direction))
    {keyword : Keyword} (other : keyword ≠ .sort) :
    ∀ lexeme ∈ orderLexemes model order, lexeme ≠ .keyword keyword := by
  have terms : ∀ lexeme ∈ [Lexeme.symbol ','].intercalate
      (order.map fun term => term.1.lexemes model ++ Direction.lexemes term.2),
      lexeme ≠ .keyword keyword := by
    refine forall_mem_intercalate (by simp) fun piece listed => ?_
    obtain ⟨⟨attr, direction⟩, _, rfl⟩ := List.mem_map.mp listed
    rcases direction with _ | _ | _ <;> simp [Attribute.lexemes, Direction.lexemes]
  unfold orderLexemes
  split
  · simp
  · exact List.forall_mem_cons.mpr ⟨fun same => other (Lexeme.keyword.inj same).symm,
      List.forall_mem_cons.mpr ⟨by simp, terms⟩⟩

theorem isTail_orderLexemes (model : Model) (order : List (Attribute × Option Direction)) :
    Lexeme.IsTail (orderLexemes model order) := by
  refine ⟨?_, orderLexemes_noKeyword model order (by decide)⟩
  unfold orderLexemes
  split <;> simp

def boundLexemes (dialect : Dialect) (bound : Int) : List Lexeme :=
  Token.placeLexemes dialect .integer (.integer bound)

def windowLexemes (dialect : Dialect) (limit offset : Option Int) : List Lexeme :=
  let bound := boundLexemes dialect
  match dialect, limit, offset with
  | _, none, none => []
  | .generic, some limit, none => .keyword .cut :: bound limit
  | .generic, none, some offset =>
    .keyword .cut :: .symbol '-' :: .number "1" :: .name "offset" :: bound offset
  | .generic, some limit, some offset =>
    .keyword .cut :: (bound limit ++ .name "offset" :: bound offset)
  | .adapter .sqlite, some limit, offset =>
    .keyword .cut :: (bound limit ++ .name "offset" :: bound (offset.getD 0))
  | .adapter .sqlite, none, some offset =>
    .keyword .cut :: (bound (-1) ++ .name "offset" :: bound offset)
  | .adapter .postgres, some limit, none => .keyword .cut :: bound limit
  | .adapter .postgres, none, some offset =>
    .keyword .cut :: .name "all" :: .name "offset" :: bound offset
  | .adapter .postgres, some limit, some offset =>
    .keyword .cut :: (bound limit ++ .name "offset" :: bound offset)
  | .adapter .mysql, some limit, none => .keyword .cut :: bound limit
  | .adapter .mysql, none, some offset =>
    .keyword .cut :: (bound offset ++ [.symbol ',', .number "18446744073709551615"])
  | .adapter .mysql, some limit, some offset =>
    .keyword .cut :: (bound offset ++ .symbol ',' :: bound limit)

theorem ends_unlimited (dialect : Dialect) :
    Ends dialect ", 18446744073709551615" [.symbol ',', .number "18446744073709551615"] := by
  refine fun position =>
    ⟨.word "18446744073709551615".toList, [.symbol ','], _, .word _, rfl, fun later => ?_⟩
  rcases dialect with _ | ⟨_ | _ | _⟩ <;> rfl

theorem follows_windowTokens (dialect : Dialect) (limit offset : Option Int) :
    Token.Follows dialect (windowTokens dialect limit offset)
      (windowLexemes dialect limit offset) := by
  have limits : Closes dialect "\n LIMIT " [.keyword .cut] := closes_sign (by simp [signs])
  have limitsApart : Closes dialect " \n LIMIT " [.keyword .cut] := closes_sign (by simp [signs])
  have fills : Closes dialect "\n LIMIT -1 OFFSET "
      [.keyword .cut, .symbol '-', .number "1", .name "offset"] := closes_sign (by simp [signs])
  have fillsAll : Closes dialect "\n LIMIT ALL OFFSET " [.keyword .cut, .name "all", .name "offset"] :=
    closes_sign (by simp [signs])
  have offsets : Closes dialect " OFFSET " [.name "offset"] := closes_sign (by simp [signs])
  have comma : Closes dialect ", " [.symbol ','] := closes_sign (by simp [signs])
  have starts : StartsApart dialect "\n LIMIT " := startsApart_of rfl (by decide)
  have startsBlank : StartsApart dialect " \n LIMIT " := startsApart_of rfl (by decide)
  have bound (value : Int) (fixed : Bool) :
      Token.Reads dialect [.place "param" .integer (.integer value) fixed]
        (boundLexemes dialect value) := .place _ _ _ _
  have skipping (first second : Int) (fixed : Bool) :
      Token.Reads dialect [.place "param" .integer (.integer first) fixed, .word " OFFSET ",
        boundToken second] (boundLexemes dialect first ++ .name "offset" ::
        boundLexemes dialect second) :=
    (bound first fixed).append (startsApart_of rfl (by decide)) (.cons offsets (bound second false))
  cases limit with
  | none =>
      cases offset with
      | none => rcases dialect with _ | ⟨_ | _ | _⟩ <;> exact .nothing
      | some offset =>
          rcases dialect with _ | ⟨_ | _ | _⟩
          · exact .word (startsApart_of rfl (by decide)) (.cons fills (bound offset false))
          · exact .word startsBlank (.cons limitsApart ((bound offset false).append
              (startsApart_of rfl (by decide)) (.word (ends_unlimited _))))
          · exact .word (startsApart_of rfl (by decide)) (.cons fillsAll (bound offset false))
          · exact .word starts (.cons limits (skipping (-1) offset true))
  | some limit =>
      cases offset with
      | none =>
          rcases dialect with _ | ⟨_ | _ | _⟩
          · exact .word starts (.cons limits (bound limit false))
          · exact .word startsBlank (.cons limitsApart (bound limit false))
          · exact .word startsBlank (.cons limitsApart (bound limit false))
          · exact .word starts (.cons limits (skipping limit 0 false))
      | some offset =>
          rcases dialect with _ | ⟨_ | _ | _⟩
          · exact .word starts (.cons limits (skipping limit offset false))
          · exact .word startsBlank (.cons limitsApart ((bound offset false).append
              (startsApart_of rfl (by decide)) (.cons comma (bound limit false))))
          · exact .word startsBlank (.cons limitsApart (skipping limit offset false))
          · exact .word starts (.cons limits (skipping limit offset false))

theorem isTail_windowLexemes (dialect : Dialect) (limit offset : Option Int) :
    Lexeme.IsTail (windowLexemes dialect limit offset) := by
  constructor
  · rcases limit with _ | limit <;> rcases offset with _ | offset <;>
      rcases dialect with _ | ⟨_ | _ | _⟩ <;> simp [windowLexemes]
  · rcases limit with _ | limit <;> rcases offset with _ | offset <;>
      rcases dialect with _ | ⟨_ | _ | _⟩ <;>
      simp [windowLexemes, boundLexemes, Token.placeLexemes, BindType.wordsIn,
        BindType.castLexemes, BindType.castWords]

namespace Selection

variable (dialect : Dialect) (selection : Selection)

def lexemes : List Lexeme :=
  selection.model.headLexemes ++
    Predicate.whereLexemes dialect selection.model selection.predicates ++
    (orderLexemes selection.model selection.order ++
      windowLexemes dialect selection.limit selection.offset)

theorem reads_tokens :
    Token.Reads dialect (selection.tokens dialect) (selection.lexemes dialect) := by
  have head := Token.Reads.word (ends_head dialect selection.model)
  have restriction : Token.Follows dialect
      (Predicate.whereTokens dialect selection.model selection.predicates) _ :=
    Predicate.follows_whereTokens selection.predicates
  have ordered := (head.append_follows restriction).append_follows
    (follows_orderTokens dialect selection.model selection.order)
  have cut := ordered.append_follows
    (follows_windowTokens dialect selection.limit selection.offset)
  rw [List.append_assoc _ (orderLexemes _ _)] at cut
  exact cut

theorem lexemes?_render : ∃ tail,
    (selection.render dialect).lexemes? dialect = some (selection.model.headLexemes ++
      Predicate.whereLexemes dialect selection.model selection.predicates ++ tail) ∧
    Lexeme.IsTail tail :=
  ⟨_, (selection.reads_tokens dialect).lexemes?_ofTokens,
    (isTail_orderLexemes selection.model selection.order).append
      (isTail_windowLexemes dialect selection.limit selection.offset)⟩

end Selection

theorem Predicate.lexemes?_render (dialect : Dialect) (model : Model) {predicate : Predicate}
    (restricts : predicate.isVoid = false) :
    (predicate.render dialect model).lexemes? dialect = some (predicate.lexemes dialect model) :=
  (reads_tokens restricts).lexemes?_ofTokens

end RecordStore
