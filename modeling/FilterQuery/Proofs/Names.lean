import Mathlib.Tactic.Common
import FilterQuery.Proofs.Parameters
import FilterQuery.Sql.Result

/-!
# The names in a written statement

What an ordering can refer to has its name before any condition is written: columns and sources stand
in front of the conditions, and what is named later leaves these names alone.

**Choosing.**  `Chooses` says that a writing names a thing, whatever has been named before.

**Statements.**  `writtenFront` is what is named before the conditions, which stand in a subquery if
children are joined to limited parents.  `names_of_conditions`: two statements that differ in
conditions alone have the same names for their labels and sources, and so `arranged?_of_conditions`
orders the same assignments in the same way in both.
-/

namespace FilterQuery.Sql

/-! ## Choosing -/

/-- After a writing a thing has a name, whatever has been written before. -/
def Chooses {α : Type} (writing : Writing α) (thing : Named) : Prop :=
  ∀ naming, ((writing.run naming).2.numbers.lookup thing).isSome

/-- A number that is chosen stays. -/
lemma lookup_later {numbers more : List (Named × Nat)} {thing : Named} (h : numbers <+: more)
    (hthing : (numbers.lookup thing).isSome) : more.lookup thing = numbers.lookup thing := by
  obtain ⟨added, rfl⟩ := h
  rw [List.lookup_append, Option.or_of_isSome hthing]

/-- What comes later leaves the names alone that are chosen. -/
lemma Writes.after {α β : Type} {writing : Writing α} {next : α → Writing β}
    {parameters : List Parameter} (h : ∀ a, Writes (next a) parameters) (naming : Naming) :
    (writing.run naming).2.numbers <+: ((writing >>= next).run naming).2.numbers :=
  (h _ _).2

namespace Chooses

variable {α β : Type} {writing : Writing α} {next : α → Writing β} {thing : Named}
  {parameters : List Parameter}

lemma nameOf (thing : Named) : Chooses (nameOf thing) thing := by
  intro naming
  have hrun : ((FilterQuery.Sql.nameOf thing).run naming).2 = (naming.number thing).2 := rfl
  rw [hrun, Naming.number]
  cases hlookup : naming.numbers.lookup thing with
  | some number => simp [hlookup]
  | none => simp [List.lookup_append]

lemma bind (h : Chooses writing thing) (hnext : ∀ a, Writes (next a) parameters) :
    Chooses (writing >>= next) thing := by
  intro naming
  rw [lookup_later (Writes.after hnext naming) (h naming)]
  exact h naming

lemma bind_right (hnext : ∀ a, Chooses (next a) thing) : Chooses (writing >>= next) thing :=
  fun naming => hnext (writing.run naming).1 (writing.run naming).2

lemma bind_pure (h : Chooses writing thing) (f : α → β) :
    Chooses (do return f (← writing)) thing :=
  h.bind fun a => .pure (f a)

/-- One of some parts chooses the name, and all others leave it alone. -/
lemma joined {separator : String} {parts : List (Writing String)} {part : Writing String}
    (hwrites : ∀ part ∈ parts, Writes part []) (hpart : part ∈ parts) (h : Chooses part thing) :
    Chooses (joined separator parts) thing := by
  have hparts : Chooses (parts.mapM id) thing := by
    induction parts with
    | nil => cases hpart
    | cons first rest ih =>
        rw [List.forall_mem_cons] at hwrites
        have hrest : Writes (rest.mapM id) (rest.map fun _ => ([] : List Parameter)).flatten :=
          Writes.mapM (List.forall₂_map_right_iff.mpr (List.forall₂_same.mpr hwrites.2))
        rw [List.mapM_cons]
        rcases List.mem_cons.mp hpart with rfl | hmem
        · exact h.bind fun _ => hrest.bind_pure _
        · exact bind_right fun _ => (ih hwrites.2 hmem).bind_pure _
  exact hparts.bind_pure _

end Chooses

/-! ## Columns and sources -/

/-- A source with a name of its own gets it where it is introduced. -/
lemma chooses_introduced {source : Source} (hrole : source.role ≠ .itself) :
    Chooses (introduced source) (.source source) := by
  have hname : Chooses (sourceText source) (.source source) := by
    rw [sourceText]
    split
    · rename_i hitself
      exact absurd hitself hrole
    · exact (Chooses.nameOf _).bind_pure _
  rw [introduced]
  split
  · rename_i hitself
    exact absurd hitself hrole
  · exact hname.bind_pure _

/-- A label gets its name where its column is selected. -/
lemma chooses_text (inSubquery : Bool) {shown : Shown} {label : Named}
    (hlabel : shown.label = some label) : Chooses (shown.text inSubquery) label := by
  have hname : Chooses shown.labelText label := by
    rw [Shown.labelText, hlabel]
    exact .nameOf _
  refine Chooses.bind_right fun column => ?_
  simp only [hlabel, Option.isSome_some, Bool.or_true, if_true]
  exact hname.bind_pure _

/-- All sources of a chain of joins get their names. -/
lemma chooses_chain {first source : Source} {joins : List Join}
    (hsource : source ∈ joinSources first joins) (hrole : source.role ≠ .itself) :
    Chooses (writeChain first joins) (.source source) := by
  rcases List.mem_cons.mp hsource with rfl | hjoined
  · exact (chooses_introduced hrole).bind fun _ =>
      (Writes.joined_nil fun join _ => writes_join join).bind_pure _
  · obtain ⟨join, hjoin, rfl⟩ := List.mem_map.mp hjoined
    refine Chooses.bind_right fun _ => Chooses.bind_pure ?_ _
    refine Chooses.joined (List.forall_mem_map.mpr fun join _ => writes_join join)
      (List.mem_map_of_mem hjoin) ?_
    exact (chooses_introduced hrole).bind fun _ => (writes_equalities _).bind_pure _

/-- All sources of a statement get their names behind `FROM`. -/
lemma chooses_sources {statement : Statement} {behindFirst : Writing String} {source : Source}
    (hbehind : Writes behindFirst []) (hsource : source ∈ statement.sources)
    (hrole : source.role ≠ .itself) :
    Chooses (writeSources statement behindFirst) (.source source) := by
  have hothers : ∀ others : List Source, Writes
      (joined "" (others.map fun source => return ", " ++ (← introduced source))) [] :=
    fun others => Writes.joined_nil fun other _ => (writes_introduced other).bind_pure _
  have hchosen : ∀ others : List Source, source ∈ others → Chooses
      (joined "" (others.map fun source => return ", " ++ (← introduced source)))
      (.source source) := fun others hmem =>
    .joined (List.forall_mem_map.mpr fun other _ => (writes_introduced other).bind_pure _)
      (List.mem_map_of_mem hmem) ((chooses_introduced hrole).bind_pure _)
  rw [writeSources]
  rw [Statement.sources] at hsource
  cases hleading : statement.leadingSources with
  | nil =>
      cases hjoins : statement.joins with
      | none => simp [hjoins, hleading] at hsource
      | some start => simp [Statement.leadingSources, hjoins] at hleading
  | cons first others =>
      cases hjoins : statement.joins with
      | none =>
          simp only [hjoins, hleading] at hsource
          dsimp only
          rcases List.mem_cons.mp hsource with rfl | hmem
          · exact (chooses_introduced hrole).bind fun _ => hbehind.bind_nil fun _ =>
              (hothers others).bind_pure _
          · exact .bind_right fun _ => .bind_right fun _ => (hchosen others hmem).bind_pure _
      | some start =>
          obtain ⟨start, joins⟩ := start
          simp only [hjoins, hleading, List.drop_one, List.tail_cons, List.mem_append] at hsource
          dsimp only
          rcases hsource with hjoined | hmem
          · exact (chooses_chain hjoined hrole).bind fun _ => hbehind.bind_nil fun _ =>
              (hothers others).bind_pure _
          · exact .bind_right fun _ => .bind_right fun _ => (hchosen others hmem).bind_pure _

/-! ## Statements -/

/-- Names that are there before the conditions of a statement are written: those of the labels of some
columns, and those of the sources. -/
structure IsFront (statement : Statement) (shown : List Shown) (front : List (Named × Nat)) :
    Prop where
  labels : ∀ column ∈ shown, ∀ label, column.label = some label → (front.lookup label).isSome
  sources : ∀ source ∈ statement.sources, source.role ≠ .itself →
    (front.lookup (.source source)).isSome

/-- What is named when the columns and the sources of a statement have been written. -/
def frontNaming (inSubquery : Bool) (statement : Statement) (shown : List Shown)
    (behindFirst : Writing String) (naming : Naming) : Naming :=
  ((writeSources statement behindFirst).run
    ((joined ", " (shown.map (Shown.text inSubquery))).run naming).2).2

section Front

variable {statement : Statement} {behindFirst : Writing String}

lemma isFront_frontNaming (inSubquery : Bool) (shown : List Shown) (hbehind : Writes behindFirst [])
    (naming : Naming) : IsFront statement shown
      (frontNaming inSubquery statement shown behindFirst naming).numbers where
  labels column hcolumn label hlabel := by
    have hchosen : Chooses (joined ", " (shown.map (Shown.text inSubquery))) label :=
      .joined (List.forall_mem_map.mpr fun column _ => writes_shown inSubquery column)
        (List.mem_map_of_mem hcolumn) (chooses_text inSubquery hlabel)
    exact (hchosen.bind fun _ => writes_sources statement hbehind) naming
  sources source hsource hrole := chooses_sources hbehind hsource hrole _

/-- Conditions, ordering and limits leave these names alone. -/
lemma frontNaming_later (inSubquery : Bool) (statement : Statement) (shown : List Shown)
    (behindFirst : Writing String) (moreOrder : List OrderTerm) (naming : Naming) :
    (frontNaming inSubquery statement shown behindFirst naming).numbers <+:
      ((writePlain inSubquery statement shown behindFirst moreOrder).run naming).2.numbers := by
  have hrest : ∀ columns sources : String, Writes (do
      let conditions ← writeConditions statement.sources statement.conditions
      let order ← writeOrder placeText (statement.order ++ moreOrder)
      let limits ← writeLimits statement.limit statement.offset
      return "SELECT " ++ (if statement.distinct then "DISTINCT " else "") ++ columns ++ sources
        ++ conditions ++ order ++ limits) _ := fun columns sources =>
    (writes_conditions _ _).bind fun _ => (writes_order writes_placeText _).bind fun _ =>
      (writes_limits _ _).bind_pure _
  let columns := (joined ", " (shown.map (Shown.text inSubquery))).run naming
  let sources := (writeSources statement behindFirst).run columns.2
  exact (hrest columns.1 sources.1 sources.2).2

end Front

/-! ## Conditions -/

section Conditions

variable {statement : Statement} {conditions : List Condition}

/-- Conditions that bring in no source change nothing of what is named before them. -/
lemma frontNaming_of_conditions (inSubquery : Bool) (shown : List Shown)
    (behindFirst : Writing String) (naming : Naming)
    (hleading : { statement with conditions := conditions }.leadingSources =
      statement.leadingSources) :
    frontNaming inSubquery { statement with conditions := conditions } shown behindFirst naming =
      frontNaming inSubquery statement shown behindFirst naming := by
  have hsources : writeSources { statement with conditions := conditions } behindFirst =
      writeSources statement behindFirst := by
    rw [writeSources, writeSources, hleading]
  rw [frontNaming, hsources]
  rfl

/-- Whatever is shown is shown besides the columns of the ordering, under the same label. -/
lemma subset_orderShown (statement : Statement) (shown : List Shown) :
    shown ⊆ statement.orderShown shown := by
  have hadd : ∀ (known : List Shown) (place : Place), known ⊆ Shown.add true known place := by
    intro known place
    rw [Shown.add]
    split
    · exact List.Subset.refl _
    · split <;> exact List.subset_append_left _ _
  rw [Statement.orderShown]
  induction statement.order generalizing shown with
  | nil => exact List.Subset.refl _
  | cons term rest ih =>
      rw [List.foldl_cons]
      cases term with
      | column ref descending emptyFirst => exact List.Subset.trans (hadd shown ref.place) (ih _)
      | text raw => exact ih shown
      | null => exact ih shown
      | flag truth => exact ih shown

/-- Names of more columns are names of fewer. -/
lemma IsFront.mono {shown more : List Shown} {front : List (Named × Nat)}
    (h : IsFront statement more front) (hsub : shown ⊆ more) : IsFront statement shown front :=
  ⟨fun column hcolumn => h.labels column (hsub hcolumn), h.sources⟩

/-- What is named before the conditions of a statement are written, wherever these stand. -/
def writtenFront (statement : Statement) : List (Named × Nat) :=
  match statement.eager with
  | none => (frontNaming false statement statement.shown (return "") .start).numbers
  | some eager =>
    if statement.isLimited then
      let inner := statement.orderShown statement.shown
      (frontNaming true statement inner (return "")
        ((outsideColumns inner eager).run .start).2).numbers
    else (frontNaming false statement (statement.shown ++ eager.shown statement.shown)
      (writeEagerJoin placeText eager) .start).numbers

lemma isFront_writtenFront (statement : Statement) :
    IsFront statement statement.shown (writtenFront statement) := by
  rw [writtenFront]
  split
  · exact isFront_frontNaming false statement.shown (.pure "") .start
  · rename_i eager _
    split
    · exact (isFront_frontNaming true _ (.pure "") _).mono
        (subset_orderShown statement statement.shown)
    · exact (isFront_frontNaming false _ (writes_eagerJoin eager writes_placeText) .start).mono
        (List.subset_append_left _ _)

/-- These names stay. -/
lemma writtenFront_later (statement : Statement) :
    writtenFront statement <+: (Query.rows statement).written.names.numbers := by
  have hwritten : (Query.rows statement).written.names =
      ((writeStatement statement).run .start).2 := rfl
  rw [hwritten, writtenFront, writeStatement]
  cases statement.eager with
  | none => exact frontNaming_later ..
  | some eager =>
      dsimp only
      split
      · let inner := statement.orderShown statement.shown
        let columns := (outsideColumns inner eager).run .start
        let body := (writePlain true statement inner (return "") []).run columns.2
        exact (frontNaming_later true statement inner (return "") [] columns.2).trans
          (writes_outside statement eager inner columns.1 body.1 body.2).2
      · exact frontNaming_later ..

/-- Conditions that bring in no source change nothing of it. -/
lemma writtenFront_of_conditions
    (hleading : { statement with conditions := conditions }.leadingSources =
      statement.leadingSources) :
    writtenFront { statement with conditions := conditions } = writtenFront statement := by
  have hfront : ∀ inSubquery shown behindFirst naming,
      (frontNaming inSubquery { statement with conditions := conditions } shown behindFirst
        naming).numbers =
      (frontNaming inSubquery statement shown behindFirst naming).numbers :=
    fun inSubquery shown behindFirst naming =>
      congrArg Naming.numbers
        (frontNaming_of_conditions inSubquery shown behindFirst naming hleading)
  simp only [writtenFront, hfront]
  rfl

/-- **Names.**  Statements that differ in conditions alone have the same names for their labels and
sources. -/
theorem names_of_conditions
    (hleading : { statement with conditions := conditions }.leadingSources =
      statement.leadingSources) :
    ∃ front, IsFront statement statement.shown front ∧
      front <+: (Query.rows statement).written.names.numbers ∧
      front <+: (Query.rows { statement with conditions := conditions }).written.names.numbers := by
  refine ⟨_, isFront_writtenFront statement, writtenFront_later statement, ?_⟩
  rw [← writtenFront_of_conditions hleading]
  exact writtenFront_later _

/-- So an ordering can refer to the same in both. -/
lemma visible_of_conditions (schema : Schema)
    (hleading : { statement with conditions := conditions }.leadingSources =
      statement.leadingSources) :
    { statement with conditions := conditions }.visible schema
        (Query.rows { statement with conditions := conditions }).written.names false []
        statement.shown =
      statement.visible schema (Query.rows statement).written.names false [] statement.shown := by
  obtain ⟨front, hfront, hthis, hother⟩ := names_of_conditions hleading
  have hlookup : ∀ thing, (front.lookup thing).isSome →
      (Query.rows { statement with conditions := conditions }).written.names.numbers.lookup thing =
        (Query.rows statement).written.names.numbers.lookup thing := fun thing hthing =>
    (lookup_later hother hthing).trans (lookup_later hthis hthing).symm
  have hsources : { statement with conditions := conditions }.sources = statement.sources := by
    rw [Statement.sources, Statement.sources, hleading]
  simp only [Statement.visible, hsources, List.append_nil, OrderText.Visible.mk.injEq]
  constructor
  · refine List.filterMap_congr fun column hcolumn => ?_
    have hlabel : column.label? (Query.rows
          { statement with conditions := conditions }).written.names false =
        column.label? (Query.rows statement).written.names false := by
      rw [Shown.label?, Shown.label?]
      cases hlabelled : column.label with
      | none => rfl
      | some label => simp only [hlookup label (hfront.labels column hcolumn label hlabelled)]
    rw [hlabel]
  · refine List.filterMap_congr fun source hsource => ?_
    have hname : (Query.rows { statement with conditions := conditions }).written.names.sourceName?
        source = (Query.rows statement).written.names.sourceName? source := by
      rw [Naming.sourceName?, Naming.sourceName?]
      split
      · rfl
      · rename_i hrole
        rw [hlookup _ (hfront.sources source hsource hrole)]
    rw [hname]

/-- **Ordering.**  Conditions that let the same assignments through arrange them in the same way. -/
theorem arranged?_of_conditions (database : Database)
    (hleading : { statement with conditions := conditions }.leadingSources =
      statement.leadingSources)
    (hscope : { statement with conditions := conditions }.scope database =
      statement.scope database) :
    { statement with conditions := conditions }.arranged? database
        (Query.rows { statement with conditions := conditions }).written.names false
        statement.shown =
      statement.arranged? database (Query.rows statement).written.names false
        statement.shown := by
  have hsources : { statement with conditions := conditions }.sources = statement.sources := by
    rw [Statement.sources, Statement.sources, hleading]
  rw [Statement.arranged?, Statement.arranged?, hscope, hsources,
    visible_of_conditions database.schema hleading]
  rfl

end Conditions

end FilterQuery.Sql
