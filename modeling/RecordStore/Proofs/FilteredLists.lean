import RecordStore.Model.Samples
import RecordStore.Proofs.FilterMeaning
import RecordStore.Proofs.Listings

/-!
Lists of records. A list shows the rows that meet all fields of its filter, sorted by its terms and
cut to its window. Fields and terms speak of the values in the columns of the database. Moments that
the clock of the store has written are an exception: they are compared as if they lay just before
themselves.
-/

namespace RecordStore

def Catalogue.itemsOf (catalogue : Catalogue) (filter : Option Filter) :
    Except Failure (List (Field × Value)) :=
  match filter with
  | none => .ok []
  | some filter => catalogue.items filter

theorem compileFilter_suiting {catalogue : Catalogue} {filter : Option Filter} {model : Model}
    {items : List (Field × Value)} (given : catalogue.itemsOf filter = .ok items)
    (suits : ∀ item ∈ items, item.1.Suits model item.2) :
    ∃ clauses predicates, compileFilter catalogue filter = .ok clauses ∧
      Registry.standard.compileClauses model clauses = .ok predicates ∧
      (∀ row, Predicate.allHold predicates row = items.all fun item =>
        item.1.meets .byCell model row item.2) ∧
      ∀ place ∈ Predicate.wherePlaces model predicates, Bindable place := by
  cases filter with
  | none =>
      cases given
      exact ⟨[], [], rfl, rfl, fun _ => rfl, fun _ found => (List.not_mem_nil found).elim⟩
  | some filter =>
      obtain ⟨_, callable, read⟩ := bind_eq_ok_iff.mp given
      obtain ⟨clauses, predicates, compiled, predicated, holds, bindable⟩ :=
        compileReadings_suiting read suits
      refine ⟨clauses, predicates, ?_, predicated, holds, fun place found => ?_⟩
      · rw [compileFilter, callable, ok_bind, compiled]
      · obtain ⟨predicate, listed, test, alternative, there⟩ := Predicate.mem_wherePlaces found
        exact bindable predicate listed test alternative place there

def Comparing.puts (how : Comparing) (model : Model) (term : SortTerm) (left right : Row) : Bool :=
  match model.column? term.column with
  | some attr => term.before (how.less attr.type) left right
  | none => false

/-- Whether rows are what a request asks of a table: the rows that meet all fields of its filter, none
behind a row that the terms put after it. -/
structure Comparing.Answers (how : Comparing) (model : Model) (items : List (Field × Value))
    (terms : List SortTerm) (table : Table) (rows : List Row) : Prop where
  chosen : rows.Perm (table.rows.filter fun row =>
    items.all fun item => item.1.meets how model row item.2)
  sorted : rows.Pairwise fun left right => ¬SortTerm.Precedes (how.puts model) terms right left

/-- The columns that a request compares: those of the terms and of the fields that restrict anything
but by a pattern. -/
def comparedColumns (items : List (Field × Value)) (terms : List SortTerm) : List String :=
  (items.filter fun item => item.1.restricts item.2 && item.1.condition != .like).map
    (fun item => item.1.target) ++ terms.map SortTerm.column

def Model.MomentsAre (model : Model) (columns : List String) (table : Table) (asked : Cell → Prop) :
    Prop :=
  ∀ column ∈ columns, ∀ attr, model.column? column = some attr → attr.type = .moment →
    ∀ row ∈ table.rows, asked (row.stored column)

theorem SortTerm.before_congr {less less' : Cell → Cell → Bool} {term : SortTerm} {left right : Row}
    (same : less (left.stored term.column) (right.stored term.column) =
        less' (left.stored term.column) (right.stored term.column) ∧
      less (right.stored term.column) (left.stored term.column) =
        less' (right.stored term.column) (left.stored term.column)) :
    term.before less left right = term.before less' left right := by
  unfold before
  split
  · exact same.2
  · exact same.1

namespace Comparing.Answers

variable {how other : Comparing} {model : Model} {items : List (Field × Value)}
  {terms : List SortTerm} {table : Table} {rows : List Row}

theorem congr (answers : how.Answers model items terms table rows)
    (suits : ∀ item ∈ items, item.1.Suits model item.2)
    (agree : ∀ column ∈ comparedColumns items terms, ∀ attr, model.column? column = some attr →
      ∀ row ∈ table.rows, how.AgreeOn other attr.type (row.stored column) ∧
        ∀ row' ∈ table.rows, how.less attr.type (row.stored column) (row'.stored column) =
          other.less attr.type (row.stored column) (row'.stored column)) :
    other.Answers model items terms table rows where
  chosen := by
    have same : ∀ row ∈ table.rows, (items.all fun item => item.1.meets how model row item.2) =
        items.all fun item => item.1.meets other model row item.2 := by
      intro row stored
      rw [Bool.eq_iff_iff, List.all_eq_true, List.all_eq_true]
      refine forall_congr' fun item => forall_congr' fun found => ?_
      rw [Field.meets_congr (suits item found) fun restricts compares attr column => ?_]
      refine (agree item.1.target ?_ attr column row stored).1
      refine List.mem_append_left _ (List.mem_map.mpr ⟨item, List.mem_filter.mpr ⟨found, ?_⟩, rfl⟩)
      simp [restricts, compares]
    exact List.filter_congr same ▸ answers.chosen
  sorted := by
    have stored : ∀ row ∈ rows, row ∈ table.rows := fun row found =>
      (List.mem_filter.mp (answers.chosen.mem_iff.mp found)).1
    refine answers.sorted.imp_of_mem fun {left right} isLeft isRight notBehind precedes =>
      notBehind ((SortTerm.precedes_congr fun term listed => ?_).mpr precedes)
    have compared : term.column ∈ comparedColumns items terms :=
      List.mem_append_right _ (List.mem_map_of_mem listed)
    unfold Comparing.puts
    cases column : model.column? term.column with
    | none => exact ⟨rfl, rfl⟩
    | some attr =>
        have agree := agree term.column compared attr column
        have there := (agree right (stored right isRight)).2 left (stored left isLeft)
        have back := (agree left (stored left isLeft)).2 right (stored right isRight)
        exact ⟨SortTerm.before_congr ⟨there, back⟩, SortTerm.before_congr ⟨back, there⟩⟩

theorem eq_pair {first second : Row} (answers : how.Answers model [] terms table rows)
    (both : table.rows.Perm [first, second])
    (precedes : SortTerm.Precedes (how.puts model) terms first second) : rows = [first, second] := by
  have all : rows.Perm table.rows := by simpa using answers.chosen
  have chosen := all.trans both
  obtain ⟨left, right, rfl⟩ := List.length_eq_two.mp chosen.length_eq
  rcases List.mem_pair.mp (chosen.mem_iff.mp List.mem_cons_self) with rfl | rfl
  · rw [List.perm_singleton.mp ((List.perm_cons left).mp chosen)]
  · have rest := (List.perm_cons left).mp (chosen.trans (.swap ..))
    obtain rfl : right = first := by simpa using List.perm_singleton.mp rest
    exact absurd precedes (List.rel_of_pairwise_cons answers.sorted List.mem_cons_self)

theorem shortFirst (answers : byCell.Answers model items terms table rows)
    (suits : ∀ item ∈ items, item.1.Suits model item.2)
    (dated : model.MomentsAre (comparedColumns items terms) table Cell.IsDated) :
    Comparing.shortFirst.Answers model items terms table rows := by
  refine answers.congr suits fun column compared attr isColumn row stored => ⟨?_, fun row' stored' => ?_⟩
  · exact byCell_agreeOn_shortFirst fun moments => dated column compared attr isColumn moments row stored
  · exact Cell.less_eq_shortFirst fun moments =>
      ⟨dated column compared attr isColumn moments row stored,
        dated column compared attr isColumn moments row' stored'⟩

theorem byValue (answers : Comparing.shortFirst.Answers model items terms table rows)
    (suits : ∀ item ∈ items, item.1.Suits model item.2)
    (full : model.MomentsAre (comparedColumns items terms) table fun cell =>
      cell.isShort .moment = false) : Comparing.byValue.Answers model items terms table rows := by
  refine answers.congr suits fun column compared attr isColumn row stored => ?_
  have full : (row.stored column).isShort attr.type = false := by
    by_cases moments : attr.type = .moment
    · rw [moments]
      exact full column compared attr isColumn moments row stored
    · simp [Cell.isShort, Cell.moment?_eq_none moments]
  exact ⟨shortFirst_agreeOn_byValue full, fun _ _ => shortFirst_less_eq_byValue full⟩

end Comparing.Answers

open Repository

section Listed

variable (model : Model) (catalogue : Catalogue) (request : Request) (scope : Scope)
  {workspace : Workspace} {items : List (Field × Value)} {terms : List SortTerm}

/-- A list shows the rows that a request asks for by the cells of the table, without the first ones that
its offset leaves out and up to its limit. -/
theorem findAll_answers_by_cell (readable : Readable scope workspace)
    (given : catalogue.itemsOf request.filter = .ok items)
    (suits : ∀ item ∈ items, item.1.Suits model item.2)
    (columns : ∀ column ∈ request.order, (model.column? column).isSome)
    (compiled : SortTerm.compile request.order request.directions = terms) :
    ∃ rows, Comparing.byCell.Answers model items terms workspace.table rows ∧
      ∀ limit offset : Int, limit < 2 ^ 63 → offset < 2 ^ 63 → ∃ handles after,
        (Repository.findAll ⟨model, .standard⟩ catalogue request limit offset scope).run workspace =
            (.ok handles, after) ∧
          after.table = workspace.table ∧
          Presents model scope after (windowOf limit offset rows) handles := by
  subst compiled
  obtain ⟨clauses, predicates, compiled, predicated, holds, bindable⟩ :=
    compileFilter_suiting given suits
  obtain ⟨order, resolved, mapped⟩ := SortTerm.resolve_ok
    fun term found => columns term.column (SortTerm.mem_compile found)
  have lists : Repository.Lists ⟨model, .standard⟩ catalogue request workspace.table _ :=
    ⟨clauses, predicates, order, compiled, predicated, resolved, bindable, rfl⟩
  refine ⟨(workspace.table.rows.filter (Predicate.allHold predicates)).mergeSort (mayPrecede order),
    ⟨?_, ?_⟩, fun limit offset limitFits offsetFits => ?_⟩
  · rw [show (fun row => items.all fun item => item.1.meets .byCell model row item.2) =
      Predicate.allHold predicates from funext fun row => (holds row).symm]
    exact List.mergeSort_perm _ _
  · have sorted := SortTerm.pairwise_mergeSort_mayPrecede order
      (workspace.table.rows.filter (Predicate.allHold predicates))
    rw [mapped] at sorted
    refine sorted.imp fun {left right} notBehind precedes =>
      notBehind ((SortTerm.precedes_congr fun term found => ?_).mp precedes)
    obtain ⟨attr, column⟩ :=
      Option.isSome_iff_exists.mp (columns term.column (SortTerm.mem_compile found))
    unfold Comparing.puts
    rw [column]
    exact ⟨rfl, rfl⟩
  · obtain ⟨handles, after, ran, kept, shown⟩ :=
      findAll_of_lists lists readable limitFits offsetFits
    exact ⟨handles, after, ran, kept.table readable, shown⟩

/-- A list shows the rows that a request asks for by the values of the columns, without the first ones
that its offset leaves out and up to its limit, if all moments that it compares are stored in full.
Moments that the clock of the store has written, without fractional seconds, are not equal to
themselves and lie just before themselves. Null meets no field. -/
theorem find_lists_by_value_but_for_short_moments (readable : Readable scope workspace)
    (given : catalogue.itemsOf request.filter = .ok items)
    (suits : ∀ item ∈ items, item.1.Suits model item.2)
    (columns : ∀ column ∈ request.order, (model.column? column).isSome)
    (compiled : SortTerm.compile request.order request.directions = terms)
    (dated : model.MomentsAre (comparedColumns items terms) workspace.table Cell.IsDated) :
    ∃ rows : List Row,
      Comparing.shortFirst.Answers model items terms workspace.table rows ∧
      (model.MomentsAre (comparedColumns items terms) workspace.table
          (fun cell => cell.isShort .moment = false) →
        Comparing.byValue.Answers model items terms workspace.table rows) ∧
      (∀ item ∈ items, item.1.restricts item.2 = true → ∀ row ∈ rows,
        row.stored item.1.target ≠ .null) ∧
      ∀ limit offset : Int, limit < 2 ^ 63 → offset < 2 ^ 63 → ∃ handles after,
        (Repository.findAll ⟨model, .standard⟩ catalogue request limit offset scope).run workspace =
            (.ok handles, after) ∧
          after.table = workspace.table ∧
          Presents model scope after (windowOf limit offset rows) handles := by
  obtain ⟨rows, answers, runs⟩ :=
    findAll_answers_by_cell model catalogue request scope readable given suits columns compiled
  have asWritten := answers.shortFirst suits dated
  refine ⟨rows, asWritten, fun full => asWritten.byValue suits full, ?_, runs⟩
  intro item listed restricts row found isNull
  have meets := (List.mem_filter.mp (asWritten.chosen.mem_iff.mp found)).2
  have meets := List.all_eq_true.mp meets item listed
  rw [Field.meets_null restricts isNull] at meets
  cases meets

end Listed

def guestFilters : Catalogue where
  fields := [⟨"name", some "name", .like⟩, ⟨"created", some "created_time", .between⟩]
  classes := [
    ⟨Catalogue.rootName, [], [0], []⟩,
    ⟨"GuestFilter", [("name", .field 0), ("created", .field 1)], [1, 0], [0, 1]⟩]

def noon : DateTime := ⟨2024, 5, 1, 12, 0, 0, 0⟩

def hourFromNoon : Value := .bounds (.moment noon) (.moment { noon with hour := 13 })

def guests : Workspace where
  clock := noon
  table := {
    rows := [
      ⟨1, [("name", .text "Ada"), ("created_time", .text "2024-05-01 12:00:00.000000")]⟩,
      ⟨2, [("name", .text "Eva"), ("created_time", .text "2024-05-01 12:30:00.000000")]⟩,
      ⟨4, [("name", .text "Bob"), ("created_time", .text "2024-05-01 12:30:00.000000")]⟩,
      ⟨7, [("name", .text "Ida"), ("created_time", .text "2024-05-01 12:00:00.000000")]⟩]
    sorted := by decide }

def guestsFromNoon : Request where
  filter := some ⟨1, [("name", .text "a"), ("created", hourFromNoon)]⟩
  order := ["created_time", "id"]
  directions := [.text "desc"]

def guestItems : List (Field × Value) := [
  (⟨"name", some "name", .like⟩, .text "a"),
  (⟨"created", some "created_time", .between⟩, hourFromNoon)]

def guestTerms : List SortTerm := [⟨"created_time", some .descending⟩, ⟨"id", none⟩]

theorem guestItems_suit : ∀ item ∈ guestItems, item.1.Suits Samples.person item.2 := by
  simp only [guestItems, List.forall_mem_cons]
  exact ⟨fun _ => ⟨_, rfl, rfl⟩, fun _ => ⟨_, rfl, rfl⟩, fun _ found => (List.not_mem_nil found).elim⟩

theorem guests_stored_in_full : ∀ row ∈ guests.table.rows, ∃ moment : DateTime,
    moment.isProper = true ∧ row.stored "created_time" = .text moment.toStored := by
  simp only [guests, List.forall_mem_cons]
  exact ⟨⟨noon, by decide, by decide⟩, ⟨{ noon with minute := 30 }, by decide, by decide⟩,
    ⟨{ noon with minute := 30 }, by decide, by decide⟩, ⟨noon, by decide, by decide⟩,
    fun _ found => (List.not_mem_nil found).elim⟩

theorem guests_momentsAre {asked : Cell → Prop}
    (all : ∀ moment : DateTime, moment.isProper = true → asked (.text moment.toStored)) :
    Samples.person.MomentsAre (comparedColumns guestItems guestTerms) guests.table asked := by
  intro column compared attr isColumn isMoment row stored
  have created : column = "created_time" := by
    have listed : column ∈ ["created_time", "created_time", "id"] := compared
    simp only [List.mem_cons, List.not_mem_nil, or_false, or_self_left] at listed
    refine listed.resolve_right fun identity => ?_
    subst identity
    cases isColumn
    cases isMoment
  obtain ⟨moment, proper, same⟩ := guests_stored_in_full row stored
  exact created ▸ same ▸ all moment proper

theorem guests_from_noon_are_listed : ∃ rows : List Row,
    guestFilters.itemsOf guestsFromNoon.filter = .ok guestItems ∧
      (∀ item ∈ guestItems, item.1.Suits Samples.person item.2) ∧
      SortTerm.compile guestsFromNoon.order guestsFromNoon.directions = guestTerms ∧
      Samples.person.MomentsAre (comparedColumns guestItems guestTerms) guests.table Cell.IsDated ∧
      Comparing.byValue.Answers Samples.person guestItems guestTerms guests.table rows ∧
      ∃ handles after,
        (Repository.findAll ⟨Samples.person, .standard⟩ guestFilters guestsFromNoon 1 1).run guests =
            (.ok handles, after) ∧
          Presents Samples.person none after ((rows.drop 1).take 1) handles := by
  have given : guestFilters.itemsOf guestsFromNoon.filter = .ok guestItems := rfl
  have columns : ∀ column ∈ guestsFromNoon.order, (Samples.person.column? column).isSome := by
    decide
  have compiled : SortTerm.compile guestsFromNoon.order guestsFromNoon.directions = guestTerms := by
    decide
  have dated := guests_momentsAre fun _ proper => (Cell.full_toStored proper).1
  obtain ⟨rows, _, answers, _, runs⟩ := find_lists_by_value_but_for_short_moments Samples.person
    guestFilters guestsFromNoon none (show Readable none guests from trivial) given guestItems_suit
    columns compiled dated
  have byValue := answers (guests_momentsAre fun _ proper => (Cell.full_toStored proper).2.2)
  obtain ⟨handles, after, ran, _, shown⟩ := runs 1 1 (by decide) (by decide)
  exact ⟨rows, given, guestItems_suit, compiled, dated, byValue, handles, after, ran, shown⟩

/-- Ada is created and moved to another identity, and then saved once more under the first one. The
clock of the store writes the moment of the first row, and the second gets the same one in full. -/
def createTwice : Action Workspace Unit := do
  let people : Repository := ⟨Samples.person, .standard⟩
  let ada ← Workspace.makeRecord people.model [("name", .text "Ada")]
  let _ ← people.create ada
  let found ← people.findById (.integer 1)
  Workspace.setAttribute people.model found "id" (.integer 2)
  let _ ← people.save found
  let _ ← people.save ada

def createdTwice : Workspace := (createTwice.run { clock := noon, table := .empty }).2

def adaRow (id : Int) (created : String) : Row :=
  ⟨id, [("name", .text "Ada"), ("age", .integer 0), ("status", .text "active"),
    ("email_address", .null), ("created_time", .text created),
    ("updated_time", .text "2024-05-01 12:00:00")]⟩

theorem createdTwice_rows : createdTwice.table.rows =
    [adaRow 1 "2024-05-01 12:00:00.000000", adaRow 2 "2024-05-01 12:00:00"] := by
  decide +kernel

def AnsweredByValue (request : Request) (items : List (Field × Value)) (workspace : Workspace) : Prop :=
  ∃ rows handles after,
    Comparing.byValue.Answers Samples.person items
      (SortTerm.compile request.order request.directions) workspace.table rows ∧
    (Repository.findAll ⟨Samples.person, .standard⟩ guestFilters request 0 0).run workspace =
      (.ok handles, after) ∧
    Presents Samples.person none after rows handles

theorem noon_by_the_clock_is_missed :
    ¬AnsweredByValue { filter := guestsFromNoon.filter } guestItems createdTwice := by
  rintro ⟨rows, handles, after, answers, ran, shown⟩
  have returns : ((Repository.findAll ⟨Samples.person, .standard⟩ guestFilters
      { filter := guestsFromNoon.filter } 0 0).run createdTwice).1.toOption.map List.length =
        some 1 := by
    decide +kernel
  have both : (createdTwice.table.rows.filter fun row =>
      guestItems.all fun item => item.1.meets .byValue Samples.person row item.2).length = 2 := by
    decide +kernel
  rw [ran] at returns
  have one : handles.length = 1 := by simpa [Except.toOption] using returns
  have two := answers.chosen.length_eq.trans both
  rw [← shown.length_eq, two] at one
  cases one

theorem noon_by_the_clock_is_sorted_first :
    ¬AnsweredByValue { order := ["created_time", "id"] } [] createdTwice := by
  rintro ⟨rows, handles, after, answers, ran, shown⟩
  obtain ⟨rows', answers', runs⟩ := findAll_answers_by_cell Samples.person guestFilters
    { order := ["created_time", "id"] } none (show Readable none createdTwice from trivial) rfl
    (fun _ found => (List.not_mem_nil found).elim) (by decide) rfl
  obtain ⟨handles', after', ran', _, shown'⟩ := runs 0 0 (by decide) (by decide)
  obtain ⟨same, rfl⟩ := Prod.mk.inj (ran.symm.trans ran')
  obtain rfl := Except.ok.inj same
  have byValue : rows = [adaRow 1 "2024-05-01 12:00:00.000000", adaRow 2 "2024-05-01 12:00:00"] := by
    refine answers.eq_pair (createdTwice_rows ▸ .refl _) ?_
    exact ⟨[⟨"created_time", none⟩], ⟨"id", none⟩, [], rfl, by decide +kernel, by decide +kernel⟩
  have byCell : rows' = [adaRow 2 "2024-05-01 12:00:00", adaRow 1 "2024-05-01 12:00:00.000000"] := by
    refine answers'.eq_pair (createdTwice_rows ▸ .swap _ _ _) ?_
    exact ⟨[], ⟨"created_time", none⟩, [⟨"id", none⟩], rfl, by simp, by decide +kernel⟩
  have records := shown.map_record.symm.trans shown'.map_record
  have keys := congrArg (List.map (Record.hasKey (.integer 1))) records
  rw [byValue, show windowOf 0 0 rows' = rows' from rfl, byCell] at keys
  revert keys
  decide +kernel

/-- Whoever was created at noon by the clock of the store is missed among those created from noon on,
and sorted before others who were created at noon. -/
theorem noon_by_the_clock_is_missed_and_sorted_first :
    guestFilters.itemsOf guestsFromNoon.filter = .ok guestItems ∧
    (∀ item ∈ guestItems, item.1.Suits Samples.person item.2) ∧
    createdTwice.table.rows =
      [adaRow 1 "2024-05-01 12:00:00.000000", adaRow 2 "2024-05-01 12:00:00"] ∧
    ¬AnsweredByValue { filter := guestsFromNoon.filter } guestItems createdTwice ∧
    ¬AnsweredByValue { order := ["created_time", "id"] } [] createdTwice :=
  ⟨rfl, guestItems_suit, createdTwice_rows, noon_by_the_clock_is_missed,
    noon_by_the_clock_is_sorted_first⟩

end RecordStore
