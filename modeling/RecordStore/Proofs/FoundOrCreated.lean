import RecordStore.Proofs.RowChanges

/-!
Finding the first record whose attributes equal criteria, or creating it. The lookup compares the criteria
with the cells of a row, and an insert makes cells of the same criteria. The two agree for a criterion that
the store keeps; where it puts a default in the place of null they do not.
-/

namespace RecordStore

section Cells

namespace Cell

theorem drawn_eq_null_iff {affinity : Affinity} {cell : Cell} :
    cell.drawn affinity = .null ↔ cell = .null := by
  have settles (number : Double) : settle number ≠ .null := by
    unfold settle
    split
    · split <;> simp
    · simp
  have settlesReal (number : Double) : settleReal number ≠ .null := by
    cases number <;> simp [settleReal]
  have isNumber (text : String) : ofNumericText? text ≠ some .null := by
    simp only [ofNumericText?]
    split
    · simp
    · split <;> split <;> simp
  constructor
  · intro drawn
    unfold Cell.drawn at drawn
    split at drawn
    · cases drawn
    · cases drawn
    · exact absurd drawn (settles _)
    · rename_i word
      split at drawn
      · exact absurd drawn (settles _)
      · rename_i spells
        exact absurd (spells.trans (congrArg some drawn)) (isNumber word)
      · cases drawn
    · cases drawn
    · exact absurd drawn (settlesReal _)
    · split at drawn
      · cases drawn
      · exact absurd drawn (settlesReal _)
      · cases drawn
    · exact drawn
  · rintro rfl
    exact drawn_null affinity

theorem same_settleReal {number : Double} (isNumber : number ≠ .nan) :
    (settleReal number).same (.real number) = true := by
  cases number with
  | nan => exact absurd rfl isNumber
  | infinity negative => cases negative <;> rfl
  | finite negative significand exponent =>
      -- Only zero loses its sign.
      by_cases zero : significand = 0
      · subst zero
        have nothing : (Double.scaleDown 0 1 (-exponent)).1 = 0 := by
          simp only [Double.scaleDown]
          split <;> simp
        simp [settleReal, same, number?, ExactNumber.ofDouble, Double.toFraction?, nothing,
          ExactNumber.equals]
      · have kept : (significand != 0) = true := by simpa using zero
        rw [settleReal, kept, Bool.and_true]
        simp [same, number?, ExactNumber.ofDouble, Double.toFraction?, ExactNumber.equals]

theorem ofValue_of_binds {attr : Attribute} {value : Value} {cell : Cell} (binds : attr.Binds value cell) :
    Cell.ofValue attr.bindType value = cell := by
  obtain ⟨prepared, prepares, bound⟩ := binds
  rw [Cell.ofValue, prepares]
  simp only [Except.bind, bound]

end Cell

namespace Attribute

variable {attr : Attribute} {value : Value} {operand : Cell}

def storedCell (attr : Attribute) (value : Value) : Cell :=
  (Cell.ofValue attr.bindType value).drawn attr.type.affinity

/-- Whether the cell that an insert stores for a value equals the value. In the place of null it stores the
default, or what the store sets. -/
def keeps (attr : Attribute) (value : Value) : Bool :=
  match value with
  | .null => !attr.isSetByStore && attr.storedCell attr.default == .null
  | value => attr.equates value (attr.storedCell value)

/-- A value that suits a column is bound for an insert as the cell that stands for it, integers beside floats
aside. -/
theorem binds_operand {model : Model} (listed : attr ∈ model.attributes)
    (typed : attr.type.boundCell? value = some operand)
    (unconverted : attr.type = .float → ∀ number, value ≠ .integer number) : attr.Binds value operand := by
  rcases boundCell?_cases typed with ⟨number, type | type, rfl, small, rfl⟩ |
    ⟨truth, type | type, rfl, rfl⟩ | ⟨length, word, type, spells, rfl⟩ |
    ⟨number, type, rfl, notNan, rfl⟩ | ⟨moment, type, rfl, rfl⟩
  · refine ⟨.integer number, ?_, by simp [Cell.bind, small]⟩
    simp only [bindType, type]
    split <;> rfl
  · exact absurd rfl (unconverted type number)
  · refine ⟨.boolean truth, ?_, rfl⟩
    simp only [bindType, type]
    split <;> rfl
  · simp only [Binds, bindType, type]
    split
    · exact ⟨.boolean truth, rfl, rfl⟩
    · exact ⟨_, prepare_boolean truth, by cases truth <;> rfl⟩
  · exact ⟨value, prepare_column_text type value, bind_text spells⟩
  · refine ⟨.float number, ?_, ?_⟩
    · simp only [bindType, type]
      split <;> rfl
    · cases number <;> first | rfl | exact absurd rfl notNan
  · -- Only the identity is bound under another type than its own, and it is no moment.
    have ordinary : attr.name ≠ identity.name := by
      intro same
      rw [Workspace.attribute_eq_of_name listed model.identity_mem same] at type
      cases type
    refine ⟨.text moment.toStored, ?_, rfl⟩
    simp only [bindType, if_neg ordinary, type]
    rfl

theorem same_drawn_operand (typed : attr.type.boundCell? value = some operand)
    (unconverted : attr.type = .float → ∀ number, value ≠ .integer number) :
    (operand.drawn attr.type.affinity).same operand = true := by
  rcases boundCell?_cases typed with ⟨number, type | type, rfl, small, rfl⟩ |
    ⟨truth, type | type, rfl, rfl⟩ | ⟨length, word, type, spells, rfl⟩ |
    ⟨number, type, rfl, notNan, rfl⟩ | ⟨moment, type, rfl, rfl⟩ <;> rw [type]
  · exact (Cell.same_integer_iff number number).mpr rfl
  · exact absurd rfl (unconverted type number)
  · exact (Cell.same_integer_iff _ _).mpr rfl
  · exact (Cell.same_integer_iff _ _).mpr rfl
  · simp [ColumnType.affinity, Cell.drawn, Cell.same]
  · exact Cell.same_settleReal notNan
  · simp [ColumnType.affinity, Cell.drawn, Cell.ofNumericText?_toStored, Cell.same]

theorem keeps_operand {model : Model} (listed : attr ∈ model.attributes)
    (typed : attr.type.boundCell? value = some operand)
    (unconverted : attr.type = .float → ∀ number, value ≠ .integer number) : attr.keeps value = true := by
  have stored : attr.storedCell value = operand.drawn attr.type.affinity := by
    rw [storedCell, Cell.ofValue_of_binds (binds_operand listed typed unconverted)]
  have notNull : operand.drawn attr.type.affinity ≠ .null :=
    fun null => (compared_operand typed).2 (Cell.drawn_eq_null_iff.mp null)
  have equal : attr.equates value (attr.storedCell value) = true := by
    rw [Test.equates_operand typed, stored, same_drawn_operand typed unconverted]
    simpa using notNull
  unfold keeps
  split
  · cases type : attr.type <;> rw [type] at typed <;> cases typed
  · exact equal

end Attribute

end Cells

section Inserting

open Workspace

variable {model : Model} {attr : Attribute} {record : Record} {clock : Cell} {before after : Table}
  {row : Row} {cells : List (Attribute × Cell)}

def Record.insertValue? (record : Record) (attr : Attribute) : Option (Attribute × Value) :=
  match record.get? attr.name with
  | none => if attr.isSetByStore then none else some (attr, attr.default)
  | some .null => if attr.isSetByStore then none else some (attr, attr.default)
  | some value => some (attr, value)

theorem Record.insertValue?_own {entry : Attribute × Value} (sends : record.insertValue? attr = some entry) :
    entry.1 = attr := by
  simp only [insertValue?] at sends
  split at sends
  · obtain ⟨_, same⟩ := Option.ite_none_left_eq_some.mp sends
    exact congrArg Prod.fst (Option.some.inj same).symm
  · obtain ⟨_, same⟩ := Option.ite_none_left_eq_some.mp sends
    exact congrArg Prod.fst (Option.some.inj same).symm
  · exact congrArg Prod.fst (Option.some.inj sends).symm

theorem find?_insertValue (record : Record) (listed : attr ∈ model.attributes) :
    ((insertValues model false record).find? fun entry => entry.1.name == attr.name) =
      record.insertValue? attr := by
  have sent : insertValues model false record = model.attributes.filterMap record.insertValue? := by
    simp only [insertValues, Bool.false_and, Bool.false_eq_true, if_false]
    rfl
  rw [sent]
  exact find?_sent (fun _ _ sends => Record.insertValue?_own sends) model.nodup_names listed

theorem cellOf?_map {cell : Attribute → Cell} (listed : attr ∈ model.attributes)
    (ordinary : attr.isIdentity = false) :
    cellOf? attr ((model.attributes.filter fun attr => !attr.isIdentity).map fun attr =>
      (attr, cell attr)) = some (cell attr) := by
  have kept : attr ∈ model.attributes.filter fun attr => !attr.isIdentity :=
    List.mem_filter.mpr ⟨listed, by rw [ordinary]; rfl⟩
  rw [cellOf?, List.find?_map, Option.map_map]
  cases found : (model.attributes.filter fun attr => !attr.isIdentity).find?
      ((fun entry : Attribute × Cell => entry.1.name == attr.name) ∘ fun attr => (attr, cell attr)) with
  | none =>
      have missing := List.find?_eq_none.mp found attr kept
      exact absurd (beq_self_eq_true attr.name) missing
  | some other =>
      have there := (List.mem_filter.mp (List.mem_of_find?_eq_some found)).1
      have named : other.name = attr.name := by simpa using List.find?_some found
      rw [attribute_eq_of_name there listed named]
      rfl

/-- The cell of an inserted row is the one that was sent for its attribute. For others, the store sets the
identity and gives the clock's cell. -/
theorem Table.cell_of_insert
    (inserted : before.insert model (cellOf? .identity cells) (insertCells model clock cells) =
      .ok (row, after)) (listed : attr ∈ model.attributes) :
    row.cell attr = ((cellOf? attr cells).map fun cell => cell.drawn attr.type.affinity).getD
      (if attr.isIdentity then .integer row.id else clock.drawn attr.type.affinity) := by
  obtain ⟨identified, stored, _⟩ := Table.insert_ok inserted
  cases own : attr.isIdentity with
  | true =>
      obtain rfl : attr = .identity :=
        attribute_eq_of_name listed model.identity_mem (by simpa [Attribute.isIdentity] using own)
      have cell : row.cell .identity = .integer row.id := rfl
      rw [cell]
      cases given : cellOf? .identity cells with
      | none => rfl
      | some sent =>
          rw [given] at identified
          exact (drawn_of_identityOf identified).symm
  | false =>
      have ordinary : attr.column ≠ Attribute.identity.column := fun same => by
        rw [attribute_eq_of_column listed model.identity_mem same] at own
        cases own
      have known : (((model.attributes.filter fun attr => !attr.isIdentity).map fun attr =>
          (attr, (cellOf? attr cells).getD clock)).map Prod.fst).Sublist model.attributes := by
        rw [List.map_map]
        exact List.map_id _ ▸ List.filter_sublist
      simp only [Row.cell, if_neg ordinary]
      rw [stored, insertCells, lookup_storedCells known listed own, cellOf?_map listed own]
      cases cellOf? attr cells <;> rfl

theorem cell_of_insertsRow (inserts : InsertsRow model false clock record before after row)
    (listed : attr ∈ model.attributes) :
    row.cell attr = match record.insertValue? attr with
      | some entry => attr.storedCell entry.2
      | none => if attr.isIdentity then .integer row.id else clock.drawn attr.type.affinity := by
  obtain ⟨cells, sends, inserted⟩ := inserts
  have cell := Table.cell_of_insert inserted listed
  have sent := cellOf?_of_sentAs sends attr
  rw [find?_insertValue record listed] at sent
  cases given : record.insertValue? attr with
  | none =>
      rw [given] at sent
      rwa [sent] at cell
  | some entry =>
      rw [given] at sent
      obtain ⟨bound, here, binds⟩ := sent
      rw [Record.insertValue?_own given] at binds
      simp only [cell, here, Option.map_some, Option.getD_some, Attribute.storedCell,
        Cell.ofValue_of_binds binds]

theorem equates_inserted (inserts : InsertsRow model false clock record before after row)
    (ticks : clock ≠ .null) (listed : attr ∈ model.attributes) {value : Value}
    (held : record.get? attr.name = some value) :
    attr.equates value (row.cell attr) = attr.keeps value := by
  have cell := cell_of_insertsRow inserts listed
  rw [Record.insertValue?, held] at cell
  by_cases null : value = .null
  · subst null
    cases setByStore : attr.isSetByStore with
    | true =>
        simp only [setByStore, if_true] at cell
        have notNull : row.cell attr ≠ .null := by
          rw [cell]
          split
          · simp
          · exact fun drawn => ticks (Cell.drawn_eq_null_iff.mp drawn)
        simpa [Attribute.equates, Attribute.keeps, setByStore] using notNull
    | false =>
        simp only [setByStore, Bool.false_eq_true, if_false] at cell
        rw [cell, Attribute.equates, Attribute.keeps, setByStore]
        rfl
  · have stored : row.cell attr = attr.storedCell value := by
      cases value <;> first | exact absurd rfl null | exact cell
    rw [stored]
    cases value <;> first | exact absurd rfl null | rfl

end Inserting

section Matching

variable {model : Model} {attr : Attribute} {value : Value} {criteria : List (String × Value)}
  {predicates : List Predicate} {row : Row}

def Row.satisfies (model : Model) (criteria : List (String × Value)) (row : Row) : Bool :=
  criteria.all fun entry =>
    (model.attribute? entry.1).any fun attr => attr.equates entry.2 (row.cell attr)

def Model.keeps (model : Model) (criteria : List (String × Value)) : Bool :=
  criteria.all fun entry => (model.attribute? entry.1).any fun attr => attr.keeps entry.2

def Table.FirstMatch (model : Model) (criteria : List (String × Value)) (table : Table) (row : Row) :
    Prop :=
  row ∈ table.rows ∧ row.satisfies model criteria = true ∧
    ∀ other ∈ table.rows, other.satisfies model criteria = true → row.id ≤ other.id

theorem bindable_of_equates {cell : Cell} (equal : attr.equates value cell = true) :
    ∀ place ∈ Token.places ((Test.equals attr value).tokens (.adapter .sqlite) model), Bindable place := by
  unfold Attribute.equates at equal
  unfold Test.equals
  split at equal
  · simp [Test.tokens]
  · simp [Test.tokens]
  · intro place found
    simp only [Test.tokens, Test.operandToken, Token.places, Token.binding?, List.filterMap_cons,
      List.filterMap_nil, List.mem_singleton] at found
    subst found
    -- A value that cannot be bound stands for null, which nothing equals.
    simp only [Test.related, Bool.and_eq_true, bne_iff_ne, Test.operandCell, Cell.ofValue] at equal
    obtain ⟨⟨_, notNull⟩, _⟩ := equal
    split at notNull
    · rename_i bound binds
      cases prepares : (attr.bindType.against value).prepare value with
      | error failure =>
          rw [prepares] at binds
          cases binds
      | ok prepared =>
          rw [prepares] at binds
          exact ⟨prepared, bound, prepares, binds⟩
    · exact absurd (Cell.compared_null _) notNull

theorem not_isRecord_of_equates {cell : Cell} (equal : attr.equates value cell = true) :
    value.isRecord = false := by
  cases value with
  | record name attributes =>
      have unbound : Test.operandCell attr (.record name attributes) = .null := by
        have untyped : BindType.ofValue (.record name attributes) = .untyped := rfl
        simp only [Test.operandCell, Cell.ofValue, BindType.against, untyped, true_or, if_true]
        cases attr.bindType with
        | boolean =>
            simp [BindType.prepare, BindType.prepareTruth, Value.isMutable, Value.same, Except.bind]
        | _ => exact Cell.compared_null _
      simp [Attribute.equates, Test.related, unbound] at equal
  | _ => rfl

theorem allHold_criteria (compiles : Repository.criteriaPredicates model criteria = .ok predicates)
    (row : Row) : Predicate.allHold predicates row = row.satisfies model criteria := by
  rw [Repository.criteriaPredicates, mapM_eq_ok_iff] at compiles
  induction compiles with
  | nil => rfl
  | @cons entry predicate _ _ first _ ih =>
      have same : predicate.holds row =
          (model.attribute? entry.1).any fun attr => attr.equates entry.2 (row.cell attr) := by
        split at first
        · rename_i attr known
          obtain ⟨value, taken, made⟩ := bind_eq_ok_iff.mp first
          obtain ⟨_, rfl⟩ := Operator.compared_eq_ok_iff.mp taken
          obtain rfl := Except.ok.inj made
          rw [Predicate.holds_ofTest, Test.holds_equals_eq, known]
          rfl
        · cases first
      simp only [Predicate.allHold, Row.satisfies, List.all_cons] at ih ⊢
      rw [same, ih]

theorem compiles_of_satisfies (satisfied : row.satisfies model criteria = true) :
    ∃ predicates, Repository.criteriaPredicates model criteria = .ok predicates ∧
      ∀ place ∈ Predicate.wherePlaces model predicates, Bindable place := by
  have each : ∀ entry ∈ criteria, ∃ attr, model.attribute? entry.1 = some attr ∧
      attr.equates entry.2 (row.cell attr) = true := by
    simpa [Row.satisfies, Option.any_eq_true] using satisfied
  have compiles : ∃ predicates, Repository.criteriaPredicates model criteria = .ok predicates ∧
      ∀ predicate ∈ predicates, ∃ attr value, predicate = .ofTest (.equals attr value) ∧
        attr.equates value (row.cell attr) = true := by
    clear satisfied
    induction criteria with
    | nil => exact ⟨[], rfl, by simp⟩
    | cons entry rest ih =>
        obtain ⟨⟨attr, known, equal⟩, later⟩ := List.forall_mem_cons.mp each
        obtain ⟨predicates, compiles, equals⟩ := ih later
        refine ⟨.ofTest (.equals attr entry.2) :: predicates, ?_,
          List.forall_mem_cons.mpr ⟨⟨attr, entry.2, rfl, equal⟩, equals⟩⟩
        rw [Repository.criteriaPredicates, mapM_eq_ok_iff] at compiles ⊢
        refine .cons ?_ compiles
        rw [known]
        dsimp only
        rw [Operator.compared_eq_ok_iff.mpr ⟨not_isRecord_of_equates equal, rfl⟩]
        rfl
  obtain ⟨predicates, compiles, equals⟩ := compiles
  refine ⟨predicates, compiles, fun place found => ?_⟩
  obtain ⟨predicate, listed, test, alternative, there⟩ := Predicate.mem_wherePlaces found
  obtain ⟨attr, value, rfl, equal⟩ := equals predicate listed
  obtain rfl := List.mem_singleton.mp alternative
  exact bindable_of_equates equal place there

theorem select_first (model : Model) (predicates : List Predicate) (table : Table) :
    (Repository.firstSelection model predicates).select table.rows =
      (table.rows.find? (Predicate.allHold predicates)).toList := by
  have ordered : (table.rows.filter (Predicate.allHold predicates)).Pairwise fun left right =>
      mayPrecede [(.identity, none)] left right = true := by
    refine (table.sorted.filter _).imp fun below => ?_
    simp [mayPrecede, Row.cell, Cell.less, Cell.number?, ExactNumber.ofInt, ExactNumber.less, below]
  simp only [Selection.select, Repository.firstSelection, cutWindow]
  rw [List.mergeSort_of_pairwise ordered]
  simp [List.take_one]

theorem Table.least_of_find? {table : Table} {holds : Row → Bool}
    (found : table.rows.find? holds = some row) {other : Row} (listed : other ∈ table.rows)
    (otherHolds : holds other = true) : row.id ≤ other.id := by
  obtain ⟨_, earlier, later, rows, none⟩ := List.find?_eq_some_iff_append.mp found
  have sorted := table.sorted
  rw [rows] at listed sorted
  rcases List.mem_append.mp listed with before | after
  · have fails := none other before
    rw [otherHolds] at fails
    cases fails
  · rcases List.mem_cons.mp after with rfl | behind
    · exact Int.le_refl _
    · have least := (List.pairwise_cons.mp (List.pairwise_append.mp sorted).2.1).1
      exact Int.le_of_lt (least other behind)

end Matching

namespace Repository

open Workspace UnitOfWork

variable {repository : Repository} {workspace before after : Workspace} {id : SessionId}
  {record : Handle} {criteria defaults : List (String × Value)} {row : Row}

section Finding

theorem places_firstSelection {model : Model} {predicates : List Predicate}
    (bindable : ∀ place ∈ Predicate.wherePlaces model predicates, Bindable place) :
    ∀ place ∈ Token.places ((firstSelection model predicates).tokens (.adapter .sqlite)),
      Bindable place := by
  intro place found
  rw [Selection.places_tokens, List.mem_append] at found
  rcases found with restricts | windows
  · exact bindable place restricts
  · refine bindable_windowPlaces (fun bound held => ?_) (fun bound held => ?_) place windows
    · obtain rfl := Option.some.inj held
      decide
    · cases held

theorem firstIn_finds (fresh : Fresh id before)
    (found : before.table.rows.find? (Row.satisfies repository.model criteria) = some row) :
    ∃ record inside, (repository.firstIn criteria defaults id).run before =
        (.ok (record, false), inside) ∧
      (inside.record record).values = row.values repository.model := by
  have satisfied : row.satisfies repository.model criteria = true := List.find?_some found
  obtain ⟨predicates, compiles, bindable⟩ := compiles_of_satisfies satisfied
  have same : Predicate.allHold predicates = Row.satisfies repository.model criteria :=
    funext (allHold_criteria compiles)
  have read : (firstSelection repository.model predicates).read before.table = .ok [row] := by
    rw [Selection.read_ok_iff, select_first, same, found]
    exact ⟨places_firstSelection bindable, rfl⟩
  obtain ⟨handles, queried, queries, _, _, shown⟩ := run_query fresh.toReady read
  obtain ⟨_, shown⟩ := shown fresh.unknown
  obtain ⟨record, rest, here, none, rfl⟩ := List.forall₂_cons_left_iff.mp shown
  obtain rfl := List.forall₂_nil_left_iff.mp none
  refine ⟨record, queried, ?_, ?_⟩
  · rw [firstIn, compiles, Action.run_bind_ok (Action.run_ofOutcome _ _), Action.run_bind_ok queries]
    rfl
  · rw [Workspace.record, here]
    rfl

theorem unmatched_of_created (fresh : Fresh id before)
    (ran : (repository.firstIn criteria defaults id).run before = (.ok (record, true), after)) :
    ∀ row ∈ before.table.rows, row.satisfies repository.model criteria = false := by
  cases found : before.table.rows.find? (Row.satisfies repository.model criteria) with
  | none => simpa using List.find?_eq_none.mp found
  | some row =>
      obtain ⟨other, inside, finds, _⟩ := firstIn_finds fresh found
      rw [finds] at ran
      cases ran

def Finds (repository : Repository) (criteria defaults : List (String × Value)) (workspace : Workspace)
    (row : Row) : Prop :=
  ∃ record after, (repository.firstOrCreate criteria defaults none).run workspace =
      (.ok (record, false), after) ∧
    (after.record record).values = row.values repository.model ∧ after.table = workspace.table

theorem finds_first (found : workspace.table.rows.find? (Row.satisfies repository.model criteria) = some row)
    (defaults : List (String × Value)) : repository.Finds criteria defaults workspace row := by
  have fresh := fresh_opened workspace
  rw [← table_opened none workspace] at found
  obtain ⟨record, inside, finds, values⟩ := firstIn_finds fresh found
  obtain ⟨unwritten, settled, accepted⟩ := firstIn_ok fresh.known fresh.settled finds
  obtain ⟨after, changes, records, table⟩ := run_changing_ok repository finds settled accepted
  have changing : (repository.changing none (repository.firstIn criteria defaults)).run workspace =
      (.ok (record, false), after) := changes
  refine ⟨record, after, (Action.run_bind_ok changing _).trans rfl, ?_, ?_⟩
  · rw [record_of_records records, values]
  · rw [table, unwritten, table_opened]

/-- The row of a created record satisfies the criteria exactly if the store keeps them, whichever defaults
are given. -/
theorem satisfies_inserted {model : Model} {table last : Table} {clock : Cell}
    (distinct : Distinct criteria) (ticks : clock ≠ .null)
    (inserts : InsertsRow model false clock { values := assignAll defaults criteria } table last row) :
    row.satisfies model criteria = model.keeps criteria := by
  have agree : ∀ entry ∈ criteria,
      ((model.attribute? entry.1).any fun attr => attr.equates entry.2 (row.cell attr)) =
        (model.attribute? entry.1).any fun attr => attr.keeps entry.2 := by
    intro entry listed
    cases known : model.attribute? entry.1 with
    | none => rfl
    | some attr =>
        have named : attr.name = entry.1 := by simpa using List.find?_some known
        have held : ({ values := assignAll defaults criteria } : Record).get? attr.name =
            some entry.2 := by
          rw [Record.get?, lookup_assignAll, lookup_assignAll_nil _ distinct, named,
            lookup_of_mem distinct listed]
          rfl
        exact equates_inserted inserts ticks (List.mem_of_find?_eq_some known) held
  rw [Bool.eq_iff_iff, Row.satisfies, Model.keeps, List.all_eq_true, List.all_eq_true]
  exact forall₂_congr fun entry listed => by rw [agree entry listed]

end Finding

section Creating

/-- What a call that creates a record does: no row satisfied the criteria, the record holds a new row, and
this row satisfies the criteria if the store keeps them. Then the next call finds it. -/
def CreatesFirst (repository : Repository) (criteria : List (String × Value)) (before : Workspace)
    (record : Handle) (after : Workspace) : Prop :=
  (∀ row ∈ before.table.rows, row.satisfies repository.model criteria = false) ∧
  ∃ row, before.table.find? row.id = none ∧ after.table = before.table.put row ∧
    (after.record record).values = row.values repository.model ∧
    row.satisfies repository.model criteria = repository.model.keeps criteria ∧
    (repository.model.keeps criteria = true → ∀ others, repository.Finds criteria others after row)

theorem find?_put_first {model : Model} {table : Table}
    (unmatched : ∀ row ∈ table.rows, row.satisfies model criteria = false)
    (satisfied : row.satisfies model criteria = true) :
    (table.put row).rows.find? (Row.satisfies model criteria) = some row := by
  cases found : (table.put row).rows.find? (Row.satisfies model criteria) with
  | none => exact absurd satisfied (List.find?_eq_none.mp found row (table.mem_put row))
  | some other =>
      rcases Row.mem_putInto (List.mem_of_find?_eq_some found) with rfl | there
      · rfl
      · have matched := List.find?_some found
        rw [unmatched other there] at matched
        cases matched

theorem creates_first (distinct : Distinct criteria)
    (ran : (repository.firstOrCreate criteria defaults none).run workspace =
      (.ok (record, true), after)) : repository.CreatesFirst criteria workspace record after := by
  obtain ⟨inside, found, _, _⟩ := firstOrCreate_inside ran
  have unmatched := unmatched_of_created (fresh_opened workspace) found
  rw [table_opened] at unmatched
  obtain ⟨row, inserts, values⟩ := firstOrCreate_ok ran
  obtain ⟨new, put⟩ := (Record.adds_of_inserts inserts).puts
  have ticks : workspace.clockCell ≠ .null := nofun
  have kept := satisfies_inserted distinct ticks inserts
  refine ⟨unmatched, row, new, put, values, kept, fun keeps others => ?_⟩
  refine finds_first ?_ others
  rw [put]
  exact find?_put_first unmatched (kept.trans keeps)

/-- A call creates a record only if no row satisfies the criteria, and the criteria win over the defaults.
The next call finds the record if the store keeps the criteria. If some row satisfies them, the call gives
the record of the first one and writes nothing. -/
theorem created_record_is_found_if_kept (repository : Repository) (workspace : Workspace)
    {criteria : List (String × Value)} (distinct : Distinct criteria) (defaults : List (String × Value)) :
    (∀ record after, (repository.firstOrCreate criteria defaults none).run workspace =
        (.ok (record, true), after) → repository.CreatesFirst criteria workspace record after) ∧
    ((∃ row ∈ workspace.table.rows, row.satisfies repository.model criteria = true) →
      ∃ row, workspace.table.FirstMatch repository.model criteria row ∧
        repository.Finds criteria defaults workspace row) := by
  constructor
  · intro record after ran
    exact creates_first distinct ran
  · rintro ⟨other, listed, satisfied⟩
    have isMatched : (workspace.table.rows.find? (Row.satisfies repository.model criteria)).isSome := by
      rw [List.find?_isSome]
      exact ⟨other, listed, satisfied⟩
    obtain ⟨row, found⟩ := Option.isSome_iff_exists.mp isMatched
    refine ⟨row, ⟨List.mem_of_find?_eq_some found, List.find?_some found, ?_⟩, finds_first found defaults⟩
    intro later there matched
    exact Table.least_of_find? found there matched

theorem zed_is_created_and_then_found : Distinct [("name", Value.text "Zed")] ∧
    people.model.keeps [("name", .text "Zed")] = true ∧
    ∃ after, (people.firstOrCreate [("name", .text "Zed")] [("age", .integer 3)] none).run nobody =
        (.ok (0, true), after) ∧
      people.CreatesFirst [("name", .text "Zed")] nobody 0 after ∧
      ∃ row, after.table.FirstMatch people.model [("name", .text "Zed")] row ∧
        people.Finds [("name", .text "Zed")] [("age", .integer 4)] after row := by
  have distinct : Distinct [("name", Value.text "Zed")] := by
    simp [Distinct]
  have returns : ((people.firstOrCreate [("name", .text "Zed")] [("age", .integer 3)] none).run
      nobody).1.toOption = some (0, true) := by
    decide +kernel
  have ran : (people.firstOrCreate [("name", .text "Zed")] [("age", .integer 3)] none).run nobody =
      (.ok (0, true), _) := Prod.ext (eq_ok_of_toOption returns) rfl
  have keeps : people.model.keeps [("name", .text "Zed")] = true := by
    have known : people.model.attribute? "name" =
        some ⟨"name", "name", .text none, false, false, .null⟩ := rfl
    have typed : (ColumnType.text none).boundCell? (.text "Zed") = some (.text "Zed") := rfl
    have kept := Attribute.keeps_operand (List.mem_of_find?_eq_some known) typed (by simp)
    simp [Model.keeps, known, kept]
  let created := ((people.firstOrCreate [("name", .text "Zed")] [("age", .integer 3)] none).run nobody).2
  have creates : people.CreatesFirst [("name", .text "Zed")] nobody 0 created :=
    (created_record_is_found_if_kept people nobody distinct [("age", .integer 3)]).1 _ _ ran
  have satisfied : ∃ row ∈ created.table.rows,
      row.satisfies people.model [("name", .text "Zed")] = true := by
    obtain ⟨_, row, _, put, _, kept, _⟩ := creates
    exact ⟨row, put ▸ nobody.table.mem_put row, kept.trans keeps⟩
  have finds := (created_record_is_found_if_kept people created distinct [("age", .integer 4)]).2 satisfied
  exact ⟨distinct, keeps, created, ran, creates, finds⟩

/-- Zed is asked for without an age, but has the default one, and is created again. -/
theorem zed_is_not_found_without_an_age :
    ((people.firstOrCreate [("name", .text "Zed"), ("age", .null)] [] none).run nobody).1.toOption =
        some (0, true) ∧
      ((people.firstOrCreate [("name", .text "Zed"), ("age", .null)] [] none).run
        nobody).2.table.rows.all (Row.satisfies people.model [("name", .text "Zed"), ("age", .null)]) =
          false ∧
      ((people.firstOrCreate [("name", .text "Zed"), ("age", .null)] [] none).run
        ((people.firstOrCreate [("name", .text "Zed"), ("age", .null)] [] none).run
          nobody).2).1.toOption = some (1, true) := by
  refine ⟨?_, ?_, ?_⟩
  · decide +kernel
  · decide +kernel
  · decide +kernel

end Creating

end Repository

end RecordStore
