import RecordStore.Proofs.Outcome
import RecordStore.Store.Query

/-!
Which statements the store can run: those whose places all hold a value that can be bound. A count
and a selection of the same predicates have the same places, up to the window of the selection.
-/

namespace RecordStore

def Bindable (place : BindType × Value) : Prop :=
  ∃ prepared cell, place.1.prepare place.2 = .ok prepared ∧ Cell.bind 1 prepared = .ok cell

namespace Cell

/-- The position of a value shows only in the failure of its binding. -/
theorem bind_ok_iff_first (position : Nat) (value : Value) (cell : Cell) :
    bind position value = .ok cell ↔ bind 1 value = .ok cell := by
  simp only [bind]
  split <;> try rfl
  split <;> simp

theorem bindFrom_ok_iff {position : Nat} {values : List Value} :
    (∃ cells, bindFrom position values = .ok cells) ↔
      ∀ value ∈ values, ∃ cell, bind 1 value = .ok cell := by
  induction values generalizing position with
  | nil => simp [bindFrom]
  | cons value values ih =>
      simp only [bindFrom, bind_eq_ok_iff, List.forall_mem_cons, ← @ih (position + 1),
        bind_ok_iff_first position]
      constructor
      · rintro ⟨_, cell, first, cells, rest, _⟩
        exact ⟨⟨cell, first⟩, cells, rest⟩
      · rintro ⟨⟨cell, first⟩, cells, rest⟩
        exact ⟨cell :: cells, cell, first, cells, rest, rfl⟩

theorem bindAll_ok_iff {places : List (BindType × Value)} :
    (∃ cells, bindAll places = .ok cells) ↔ ∀ place ∈ places, Bindable place := by
  induction places with
  | nil => simp [bindAll, bindFrom, pure, Except.pure]
  | cons place places ih =>
      simp only [bindAll, bind_eq_ok_iff] at ih
      simp only [bindAll, List.mapM_cons, bind_eq_ok_iff, List.forall_mem_cons, ← ih]
      constructor
      · rintro ⟨_, _, ⟨value, prepares, values, restPrepares, paired⟩, binds⟩
        obtain rfl := Except.ok.inj paired
        simp only [bindFrom, bind_eq_ok_iff] at binds
        obtain ⟨cell, first, cells, rest, _⟩ := binds
        obtain ⟨cells', rest'⟩ := bindFrom_ok_iff.mpr (bindFrom_ok_iff.mp ⟨cells, rest⟩)
        exact ⟨⟨value, cell, prepares, first⟩, cells', values, restPrepares, rest'⟩
      · rintro ⟨⟨value, cell, prepares, first⟩, cells, values, restPrepares, rest⟩
        obtain ⟨cells', rest'⟩ := bindFrom_ok_iff.mpr (bindFrom_ok_iff.mp ⟨cells, rest⟩)
        refine ⟨cell :: cells', value :: values, ⟨value, prepares, values, restPrepares, rfl⟩, ?_⟩
        simp only [bindFrom, first, ok_bind]
        rw [rest']
        rfl

theorem bindable_integer_iff (value : Int) :
    Bindable (.integer, .integer value) ↔ fits value = true := by
  constructor
  · rintro ⟨prepared, cell, prepares, binds⟩
    obtain rfl := Except.ok.inj prepares
    cases small : fits value with
    | true => rfl
    | false => simp [Cell.bind, small] at binds
  · intro small
    exact ⟨.integer value, .integer value, rfl, by simp [Cell.bind, small]⟩

end Cell

def Token.places (tokens : List Token) : List (BindType × Value) := tokens.filterMap Token.binding?

@[simp] theorem Token.places_nil : places [] = [] := rfl

@[simp] theorem Token.places_word (text : String) (tokens : List Token) :
    places (.word text :: tokens) = places tokens := rfl

@[simp] theorem Token.places_append (tokens later : List Token) :
    places (tokens ++ later) = places tokens ++ places later :=
  List.filterMap_append

theorem Token.checkBindings_ok_iff {tokens : List Token} :
    checkBindings tokens = .ok () ↔ ∀ place ∈ places tokens, Bindable place := by
  rw [← Cell.bindAll_ok_iff, checkBindings, places]
  cases Cell.bindAll (tokens.filterMap binding?) with
  | error failure => simp [Except.map]
  | ok cells => simp [Except.map]

def Predicate.wherePlaces (model : Model) (predicates : List Predicate) :
    List (BindType × Value) :=
  Token.places (whereTokens (.adapter .sqlite) model predicates)

theorem Token.places_joinTokens (separator : String) (pieces : List (List Token)) :
    places (joinTokens separator pieces) = pieces.flatMap places := by
  induction pieces with
  | nil => rfl
  | cons first rest ih =>
      cases rest with
      | nil => simp [joinTokens]
      | cons second rest =>
          simp only [joinTokens, places_append, places_word, ih, List.flatMap_cons]

namespace Predicate

variable (dialect : Dialect) (model : Model)

theorem places_tokens (predicate : Predicate) :
    Token.places (predicate.tokens dialect model) =
      predicate.alternatives.flatMap fun test => Token.places (test.tokens dialect model) := by
  rw [tokens, Token.places_joinTokens, List.flatMap_map]

theorem places_groupedTokens (predicate : Predicate) :
    Token.places (predicate.groupedTokens dialect model) =
      Token.places (predicate.tokens dialect model) := by
  unfold groupedTokens
  split
  · simp
  · rfl

theorem places_whereTokens (predicates : List Predicate) :
    Token.places (whereTokens dialect model predicates) = predicates.flatMap fun predicate =>
      predicate.alternatives.flatMap fun test => Token.places (test.tokens dialect model) := by
  have opened : Token.places (whereTokens dialect model predicates) =
      Token.places (conjunctionTokens dialect model predicates) := by
    unfold whereTokens
    split
    · rename_i empty
      rw [empty]
    · rw [Token.places_word]
  have each (predicate : Predicate) : Token.places (if predicates.length ≤ 1 then
      predicate.tokens dialect model else predicate.groupedTokens dialect model) =
      predicate.alternatives.flatMap fun test => Token.places (test.tokens dialect model) := by
    split
    · exact predicate.places_tokens dialect model
    · rw [places_groupedTokens, places_tokens]
  rw [opened, conjunctionTokens, Token.places_joinTokens, List.flatMap_map]
  simp only [each]
  clear opened each
  induction predicates with
  | nil => rfl
  | cons first rest ih =>
      rcases first with ⟨_ | ⟨test, tests⟩⟩
      · simpa [isVoid] using ih
      · simpa [isVoid] using ih

theorem mem_wherePlaces {model : Model} {predicates : List Predicate} {place : BindType × Value}
    (found : place ∈ wherePlaces model predicates) :
    ∃ predicate ∈ predicates, ∃ test ∈ predicate.alternatives,
      place ∈ Token.places (test.tokens (.adapter .sqlite) model) := by
  rw [wherePlaces, places_whereTokens] at found
  obtain ⟨predicate, listed, inside⟩ := List.mem_flatMap.mp found
  obtain ⟨test, alternative, there⟩ := List.mem_flatMap.mp inside
  exact ⟨predicate, listed, test, alternative, there⟩

end Predicate

def windowPlaces (limit offset : Option Int) : List (BindType × Value) :=
  Token.places (windowTokens (.adapter .sqlite) limit offset)

theorem Selection.places_append (dialect : Dialect) (selection : Selection) :
    Token.places (selection.tokens dialect) =
      Token.places (Predicate.whereTokens dialect selection.model selection.predicates) ++
        Token.places (windowTokens dialect selection.limit selection.offset) := by
  have noPlaces : Token.places (orderTokens dialect selection.model selection.order) = [] := by
    simp only [orderTokens]
    split <;> rfl
  simp only [tokens, List.cons_append, Token.places_word, Token.places_append, noPlaces,
    List.append_nil]

theorem Selection.places_tokens (selection : Selection) :
    Token.places (selection.tokens (.adapter .sqlite)) =
      Predicate.wherePlaces selection.model selection.predicates ++
        windowPlaces selection.limit selection.offset :=
  selection.places_append (.adapter .sqlite)

theorem Counting.places_tokens (counting : Counting) :
    Token.places (counting.tokens (.adapter .sqlite)) =
      Predicate.wherePlaces counting.model counting.predicates := by
  simp only [tokens, Token.places_word, Predicate.wherePlaces]

theorem Selection.read_ok_iff {selection : Selection} {table : Table} {rows : List Row} :
    selection.read table = .ok rows ↔
      (∀ place ∈ Token.places (selection.tokens (.adapter .sqlite)), Bindable place) ∧
        selection.select table.rows = rows := by
  rw [read, bind_eq_ok_iff, ← Token.checkBindings_ok_iff]
  constructor
  · rintro ⟨_, checked, selected⟩
    exact ⟨checked, Except.ok.inj selected⟩
  · rintro ⟨checked, selected⟩
    exact ⟨(), checked, congrArg Except.ok selected⟩

theorem Counting.read_ok_iff {counting : Counting} {table : Table} {total : Nat} :
    counting.read table = .ok total ↔
      (∀ place ∈ Token.places (counting.tokens (.adapter .sqlite)), Bindable place) ∧
        counting.count table.rows = total := by
  rw [read, bind_eq_ok_iff, ← Token.checkBindings_ok_iff]
  constructor
  · rintro ⟨_, checked, counted⟩
    exact ⟨checked, Except.ok.inj counted⟩
  · rintro ⟨checked, counted⟩
    exact ⟨(), checked, congrArg Except.ok counted⟩

theorem bindable_windowPlaces {limit offset : Option Int}
    (limitFits : ∀ bound ∈ limit, Cell.fits bound = true)
    (offsetFits : ∀ bound ∈ offset, Cell.fits bound = true) :
    ∀ place ∈ windowPlaces limit offset, Bindable place := by
  have zero : Cell.fits 0 = true := by decide
  have unlimited : Cell.fits (-1) = true := by decide
  intro place found
  rcases limit with _ | limit <;> rcases offset with _ | offset <;>
    simp only [windowPlaces, windowTokens, Token.places, Token.binding?, boundToken,
      List.filterMap_nil, List.filterMap_cons, List.mem_cons, List.not_mem_nil, or_false,
      Option.getD_none, Option.getD_some] at found
  · rcases found with rfl | rfl
    · exact (Cell.bindable_integer_iff _).mpr unlimited
    · exact (Cell.bindable_integer_iff _).mpr (offsetFits offset rfl)
  · rcases found with rfl | rfl
    · exact (Cell.bindable_integer_iff _).mpr (limitFits limit rfl)
    · exact (Cell.bindable_integer_iff _).mpr zero
  · rcases found with rfl | rfl
    · exact (Cell.bindable_integer_iff _).mpr (limitFits limit rfl)
    · exact (Cell.bindable_integer_iff _).mpr (offsetFits offset rfl)

end RecordStore
