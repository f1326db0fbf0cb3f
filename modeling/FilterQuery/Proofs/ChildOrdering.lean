import Mathlib.Tactic.Common
import FilterQuery.Proofs.QueryChildren

/-!
# Orderings next to children

Children are fetched with the ordering of their parents, but by another statement than the one that
selects the parents: they are joined to the parents, or to a subquery of the parents where these are
limited.  An ordering by columns is written for the statement it stands in.  A raw text is not, and
whether its names are found there is another question than whether they are found in the statement
of the parents.

**Readings.**  `OrderTerm.IsRead` says when a term makes sense, and `isSome_sortKeys?` that an
ordering does if all its terms do.

**Next to children.**  `Statement.visibleBeside` are the names in sight next to children, and
`Statement.loaded?_eq` says that what is loaded is read by them.

**Limits.**  `Statement.KeepsLimits` is what lets limits leave out the same parents in a subquery.

**What keeps its meaning.**  Columns of the parents always do (`isReadBeside_of_columns`).  Texts with
the names of tables do where the parents are not limited (`isReadBeside_of_qualified`), and fail where
these names are out of sight (`not_isReadBeside_of_qualified`).

**The children.**  `queryChildren_of_run`: if the statement of the parents runs, their children are
fetched exactly if its ordering makes sense next to them.  `queryChildren_of_columns`: so they are,
limits or not, where the ordering is one by columns.
-/

namespace FilterQuery

open FilterQuery.Sql

namespace Sql

/-! ## Readings -/

/-- A term of a text stands for one thing: a label, the only column of its name, or, between quotes and
where there is no such column, a text. -/
def OrderText.Names (visible : OrderText.Visible) (term : OrderText.Term) : Prop :=
  (term.table = none ∧ ∃ label ∈ visible.labels, OrderText.sameName label.1 term.column = true) ∨
    (∃ place, OrderText.places visible term.table term.column = [place]) ∨
    (term.table = none ∧ term.isQuoted = true ∧
      OrderText.places visible term.table term.column = [])

/-- A term of an ordering makes sense among some sources. -/
def OrderTerm.IsRead (visible : OrderText.Visible) (sources : List Source) : OrderTerm → Prop
  | .column ref _ _ => ref.source ∈ sources
  | .text raw => raw.isEmpty = true ∨
    ∃ reading, OrderText.read? raw = some reading ∧
      ∀ term ∈ reading.terms, OrderText.Names visible term
  | .null => True
  | .flag truth => truth = true

/-- All succeed together if each of them does. -/
lemma isSome_mapM {α β : Type} {f : α → Option β} {list : List α} :
    (list.mapM f).isSome = true ↔ ∀ a ∈ list, (f a).isSome = true := by
  induction list with
  | nil => simp
  | cons a rest ih =>
      rw [List.mapM_cons, List.forall_mem_cons, ← ih]
      cases f a <;> cases rest.mapM f <;> simp

/-- What a term of a text names is its key. -/
lemma OrderText.isSome_resolve? {visible : OrderText.Visible} {term : OrderText.Term} :
    (OrderText.resolve? visible term).isSome = true ↔ OrderText.Names visible term := by
  have hlabel : (if term.table.isSome then none
      else visible.labels.find? fun label => OrderText.sameName label.1 term.column).isSome = true ↔
      term.table = none ∧ ∃ label ∈ visible.labels,
        OrderText.sameName label.1 term.column = true := by
    cases term.table <;> simp [List.find?_isSome]
  simp only [OrderText.resolve?, OrderText.Names, ← hlabel]
  generalize (if term.table.isSome then none
    else visible.labels.find? fun label => OrderText.sameName label.1 term.column) = label?
  cases label? with
  | some label => simp
  | none =>
      match OrderText.places visible term.table term.column with
      | [] => cases term.table <;> simp
      | [place] => simp
      | first :: second :: rest => simp

/-- Behind the name of a table there has to be a column. -/
lemma OrderText.names_iff_of_table {visible : OrderText.Visible} {term : OrderText.Term}
    {name : String} (h : term.table = some name) :
    OrderText.Names visible term ↔
      ∃ place, OrderText.places visible (some name) term.column = [place] := by
  simp [OrderText.Names, h]

lemma OrderText.isSome_keys? {visible : OrderText.Visible} {raw : String} :
    (OrderText.keys? visible raw).isSome = true ↔
      ∃ reading, OrderText.read? raw = some reading ∧
        ∀ term ∈ reading.terms, OrderText.Names visible term := by
  simp only [← OrderText.isSome_resolve?, ← isSome_mapM]
  rw [OrderText.keys?]
  cases OrderText.read? raw with
  | none => simp
  | some reading =>
      cases hkeys : reading.terms.mapM (OrderText.resolve? visible) <;> simp [hkeys]

/-- **Readings.**  An ordering makes sense if all its terms do. -/
theorem isSome_sortKeys? {visible : OrderText.Visible} {sources : List Source}
    {shown : List Shown} {order : List OrderTerm} :
    (sortKeys? visible sources shown order).isSome = true ↔
      ∀ term ∈ order, term.IsRead visible sources := by
  have hempty : ∀ term : OrderTerm, term.isEmptyText = true → term.IsRead visible sources := by
    intro term hterm
    cases term with
    | text raw => exact Or.inl hterm
    | _ => cases hterm
  have hkept : (∀ term ∈ order.filter (!·.isEmptyText), term.IsRead visible sources) ↔
      ∀ term ∈ order, term.IsRead visible sources := by
    refine ⟨fun h term hterm => ?_, fun h term hterm => h term (List.mem_of_mem_filter hterm)⟩
    cases hkind : term.isEmptyText with
    | true => exact hempty term hkind
    | false => exact h term (List.mem_filter.mpr ⟨hterm, by rw [hkind]; rfl⟩)
  rw [← hkept, sortKeys?]
  simp only [bind_pure_comp, Option.map_eq_map, Option.isSome_map, isSome_mapM]
  refine forall₂_congr fun term hterm => ?_
  cases term with
  | column ref descending emptyFirst => simp [OrderTerm.IsRead]
  | text raw =>
      have hraw : raw.isEmpty = false := by
        simpa [OrderTerm.isEmptyText] using (List.mem_filter.mp hterm).2
      simp [OrderTerm.IsRead, hraw, OrderText.isSome_keys?]
  | null => simp [OrderTerm.IsRead]
  | flag truth => cases truth <;> simp [OrderTerm.IsRead]

/-- An ordering that makes sense somewhere has a form that is read, so the database is to blame where
it makes none. -/
lemma misreading_of_isRead {visible : OrderText.Visible} {sources : List Source}
    {order : List OrderTerm} (h : ∀ term ∈ order, term.IsRead visible sources)
    (hlimits : (orderLimits? order).isSome = true) : misreading order = .misread := by
  have hreadable : order.all OrderTerm.isReadable = true := by
    refine List.all_eq_true.mpr fun term hterm => ?_
    cases term with
    | text raw =>
        rcases h _ hterm with hempty | ⟨reading, hreading, -⟩
        · simp [OrderTerm.isReadable, hempty]
        · simp [OrderTerm.isReadable, hreading]
    | _ => rfl
  rw [misreading, hreadable, hlimits]
  rfl

/-! ## Next to children -/

namespace Statement

/-- A statement without its limits. -/
def unlimited (statement : Statement) : Statement :=
  { statement with limit := none, offset := none }

section Beside

variable (schema : Schema) (names : Naming) (statement : Statement) (eager : Eager)

/-- The columns that are shown of parents next to their children. -/
def shownBeside : List Shown :=
  if statement.isLimited then statement.orderShown statement.shown
  else statement.shown ++ eager.shown statement.shown

/-- The names in sight next to children.  Of limited parents these are the columns of a subquery. -/
def visibleBeside : OrderText.Visible :=
  if statement.isLimited then
    let inner := statement.orderShown statement.shown
    ⟨visibleLabels names false (inner ++ eager.shown inner),
      ("anon_1", inner.filterMap fun column =>
          (column.label? names true).map fun label => (label, column.place))
        :: visibleSources schema names eager.sources⟩
  else statement.visible schema names false eager.sources (statement.shownBeside eager)

/-- The sort keys of the ordering next to children. -/
def keysBeside? : Option (List SortKey) :=
  sortKeys? (statement.visibleBeside schema names eager) (statement.sources ++ eager.sources)
    (statement.shownBeside eager) statement.order

/-- The ordering of a statement makes sense next to children: each of its terms does. -/
def IsReadBeside : Prop :=
  ∀ term ∈ statement.order, term.IsRead
    (statement.visibleBeside schema (Query.rows (statement.withEager (some eager))).written.names
      eager) (statement.sources ++ eager.sources)

lemma isSome_keysBeside? : (statement.keysBeside? schema
      (Query.rows (statement.withEager (some eager))).written.names eager).isSome = true ↔
    statement.IsReadBeside schema eager :=
  isSome_sortKeys?

/-- The parents that stand next to their children. -/
def parents? (database : Database) : Option (List Assignment) :=
  if statement.isLimited then
    statement.arranged? database names true (statement.orderShown statement.shown)
  else some (statement.scope database)

/-- What is loaded is the parents next to their children, in the order that is read there, as long as
this ends in no limits. -/
lemma loaded?_eq (database : Database) {parents : List Assignment}
    (hlimits : orderLimits? statement.order = some .absent)
    (hparents : statement.parents? names database = some parents) :
    statement.loaded? database names eager =
      (statement.keysBeside? database.schema names eager).map fun keys =>
        sortBy (keys ++ eager.sortKeys) (parents.flatMap (eager.extend database)) := by
  rw [loaded?, Eager.limits?_of_absent hlimits, keysBeside?, visibleBeside, shownBeside]
  rw [parents?] at hparents
  cases hlimited : statement.isLimited with
  | false =>
      obtain rfl : statement.scope database = parents := by simpa [hlimited] using hparents
      simp only [Bool.false_eq_true, if_false]
      cases sortKeys? _ _ _ _ <;> rfl
  | true =>
      simp only [hlimited, if_true] at hparents
      simp only [if_true, hparents]
      cases sortKeys? _ _ _ _ <;> rfl

end Beside

/-! ## Limits -/

/-- The sort keys of the ordering where nothing stands next to the statement. -/
def keysAlone? (schema : Schema) (names : Naming) (inSubquery : Bool) (shown : List Shown)
    (statement : Statement) : Option (List SortKey) :=
  sortKeys? (statement.visible schema names inSubquery [] shown) statement.sources shown
    statement.order

/-- Limits leave out the same parents whether or not their statement is made a subquery.  They do not
stand in a text of the ordering, which would limit the children as well.  The ordering means the same
in both, and where repetitions are dropped before the limits are counted off, both show the same. -/
structure KeepsLimits (schema : Schema) (eager : Eager) (statement : Statement) : Prop where
  behind : orderLimits? statement.order = some .absent
  keys : statement.isLimited = true →
    statement.keysAlone? schema (Query.rows (statement.withEager (some eager))).written.names true
        (statement.orderShown statement.shown) =
      statement.keysAlone? schema (Query.rows statement).written.names false statement.shown
  shows : ¬statement.IsWhole → statement.distinct = true →
    statement.orderShown statement.shown = statement.shown

variable {database : Database} {statement : Statement} {eager : Eager}

/-- What is kept is read by the limits of the statement and by the names in sight. -/
lemma arranged?_eq (names : Naming) (inSubquery : Bool) (shown : List Shown) :
    statement.arranged? database names inSubquery shown =
      statement.limits?.bind fun limits =>
        (statement.keysAlone? database.schema names inSubquery shown).map fun keys =>
          let sorted := sortBy keys (statement.scope database)
          window limits (if statement.distinct then distinctBy shown sorted else sorted) := by
  rw [arranged?, keysAlone?]
  cases statement.limits? with
  | none => rfl
  | some limits =>
      simp only [bind, Option.bind_some]
      cases sortKeys? (statement.visible database.schema names inSubquery [] shown)
        statement.sources shown statement.order <;> rfl

/-- A statement runs exactly if its parameters reach the database, it is limited once at most, and its
ordering makes sense. -/
lemma exists_run_iff : (∃ rows, Query.run database (.rows statement) = .ok rows) ↔
    (∀ parameter ∈ statement.parameters, parameter.IsStored) ∧
      statement.limits?.isSome = true ∧
      (statement.keysAlone? database.schema (Query.rows statement).written.names false
        statement.shown).isSome = true := by
  simp only [Query.run, withParameters_eq_ok, mem_parameters_written, exists_and_left,
    arranged?_eq_some, Option.map_eq_some_iff, Option.isSome_iff_exists, keysAlone?]
  simp

/-- **Limits.**  The parents next to children are those that the statement keeps by itself. -/
theorem exists_parents (hover : statement.Over eager.parent)
    (hkeys : database.KeysTell eager.parent)
    (hshown : .entity eager.parent eager.holder ∈ statement.selected)
    (hlimits : statement.KeepsLimits database.schema eager) {kept : List Assignment}
    (hkept : statement.arranged? database (Query.rows statement).written.names false
      statement.shown = some kept) :
    ∃ parents, statement.parents? (Query.rows (statement.withEager (some eager))).written.names
        database = some parents ∧
      (∀ a ∈ parents, a ∈ statement.scope database) ∧
      ∀ row, (∃ a ∈ parents, a.row eager.holder = row) ↔ ∃ a ∈ kept, a.row eager.holder = row := by
  rw [parents?]
  cases hlimited : statement.isLimited with
  | false =>
      obtain ⟨hnone, hdistinct⟩ : statement.HasNoLimits ∧ statement.distinct = false := by
        simpa [isLimited, HasNoLimits] using hlimited
      have hperm := arranged_perm (isWhole_iff.mpr ⟨hnone, hlimits.behind⟩) hdistinct hkept
      exact ⟨_, rfl, fun a ha => ha, fun row => by simp only [hperm.mem_iff]⟩
  | true =>
      let inner := statement.orderShown statement.shown
      let names := (Query.rows (statement.withEager (some eager))).written.names
      have hsame := hlimits.keys hlimited
      simp only [if_true]
      by_cases hwhole : statement.IsWhole
      · -- what is shown besides may tell repetitions apart, but no rows of the parents
        obtain ⟨parents, hparents⟩ : ∃ parents,
            statement.arranged? database names true inner = some parents := by
          obtain ⟨limits, hwindow, keys, hfound, -⟩ := arranged?_eq_some.mp hkept
          exact ⟨_, arranged?_eq_some.mpr ⟨limits, hwindow, keys, hsame.trans hfound, rfl⟩⟩
        refine ⟨parents, hparents, fun a => mem_scope_of_arranged hparents, fun row => ?_⟩
        constructor
        · rintro ⟨a, ha, rfl⟩
          exact exists_row_of_arranged hover hkeys hwhole hshown (List.Subset.refl _) hkept
            (mem_scope_of_arranged hparents ha)
        · rintro ⟨a, ha, rfl⟩
          exact exists_row_of_arranged hover hkeys hwhole hshown
            (places_subset_orderShown statement statement.shown) hparents
            (mem_scope_of_arranged hkept ha)
      · have hparents : statement.arranged? database names true inner = some kept := by
          rw [← hkept, arranged?_eq, arranged?_eq, hsame]
          cases hdistinct : statement.distinct with
          | false => rfl
          | true => simp only [inner, hlimits.shows hwhole hdistinct]
        exact ⟨kept, hparents, fun a => mem_scope_of_arranged hparents, fun row => Iff.rfl⟩

/-! ## What keeps its meaning -/

/-- Columns of the parents make sense next to children, limits or not. -/
lemma isReadBeside_of_columns (schema : Schema) (hover : statement.Over eager.parent)
    (h : IsByColumnsOf eager.parent statement.order) : statement.IsReadBeside schema eager := by
  intro term hterm
  obtain ⟨column, descending, emptyFirst, rfl, hsource⟩ := h term hterm
  exact List.mem_append_left _ (hsource ▸ hover.occurs)

/-- Ordered by columns of the parents, limits leave out the same parents. -/
lemma KeepsLimits.of_columns (schema : Schema) (hover : statement.Over eager.parent)
    (h : IsByColumnsOf eager.parent statement.order) (hdistinct : statement.distinct = false) :
    statement.KeepsLimits schema eager where
  behind := orderLimits?_of_columns h
  keys _ := by
    rw [keysAlone?, keysAlone?, sortKeys?_of_columns h hover.occurs,
      sortKeys?_of_columns h hover.occurs]
  shows _ hdistinct' := by simp [hdistinct] at hdistinct'

/-- Tables have their own names, whatever names are chosen for others. -/
lemma visibleSources_itself (schema : Schema) (names others : Naming) {sources : List Source}
    (h : ∀ source ∈ sources, source.role = .itself) :
    visibleSources schema names sources = visibleSources schema others sources := by
  refine List.filterMap_congr fun source hsource => ?_
  rw [Naming.sourceName?, Naming.sourceName?, h source hsource]

/-- Behind the name of a table no other source counts. -/
lemma places_eq_nil {visible : OrderText.Visible} {name column : String}
    (h : ∀ source ∈ visible.sources, OrderText.sameName source.1 name = false) :
    OrderText.places visible (some name) column = [] := by
  rw [OrderText.places, List.flatMap_eq_nil_iff]
  rintro ⟨called, columns⟩ hsource
  have hcalled : OrderText.sameName called name = false := h _ hsource
  simp [hcalled]

lemma places_append {labels others : List (String × Option Place)} {name column : String}
    {sources more : List (String × List (String × Place))}
    (h : ∀ source ∈ more, OrderText.sameName source.1 name = false) :
    OrderText.places ⟨labels, sources ++ more⟩ (some name) column =
      OrderText.places ⟨others, sources⟩ (some name) column := by
  have hnone : OrderText.places ⟨others, more⟩ (some name) column = [] := places_eq_nil h
  calc OrderText.places ⟨labels, sources ++ more⟩ (some name) column
      = OrderText.places ⟨others, sources⟩ (some name) column ++
          OrderText.places ⟨others, more⟩ (some name) column := List.flatMap_append
    _ = OrderText.places ⟨others, sources⟩ (some name) column := by
        rw [hnone, List.append_nil]

/-- **What keeps its meaning.**  Where the parents are not limited, texts make sense next to children
if they do alone and each of their columns stands behind the name of a table of the parents. -/
theorem isReadBeside_of_qualified {schema : Schema} (hlimited : statement.isLimited = false)
    (hplain : ∀ source ∈ statement.sources, source.role = .itself)
    (htexts : ∀ raw, .text raw ∈ statement.order → ∀ reading, OrderText.read? raw = some reading →
      ∀ term ∈ reading.terms, ∃ name, term.table = some name ∧
        ∀ source ∈ visibleSources schema
            (Query.rows (statement.withEager (some eager))).written.names eager.sources,
          OrderText.sameName source.1 name = false)
    (halone : (statement.keysAlone? schema (Query.rows statement).written.names false
      statement.shown).isSome = true) :
    statement.IsReadBeside schema eager := by
  let names := (Query.rows (statement.withEager (some eager))).written.names
  have hsources : visibleSources schema names (statement.sources ++ eager.sources) =
      visibleSources schema (Query.rows statement).written.names (statement.sources ++ []) ++
        visibleSources schema names eager.sources := by
    rw [List.append_nil, visibleSources_itself schema _ names hplain]
    exact List.filterMap_append
  intro term hterm
  have hread := isSome_sortKeys?.mp halone term hterm
  cases term with
  | column ref descending emptyFirst => exact List.mem_append_left _ hread
  | null => trivial
  | flag truth => exact hread
  | text raw =>
      refine hread.imp_right fun ⟨reading, hreading, hnames⟩ =>
        ⟨reading, hreading, fun one hone => ?_⟩
      obtain ⟨name, hname, hother⟩ := htexts raw hterm reading hreading one hone
      obtain ⟨place, hplace⟩ := (OrderText.names_iff_of_table hname).mp (hnames one hone)
      refine (OrderText.names_iff_of_table hname).mpr ⟨place, ?_⟩
      rw [visible] at hplace
      rw [visibleBeside, hlimited, if_neg Bool.false_ne_true, visible, hsources, ← hplace]
      exact places_append hother

/-- A column behind a name that is out of sight next to children makes no sense there.  Of limited
parents these are the names of all their tables. -/
theorem not_isReadBeside_of_qualified {schema : Schema} {raw name : String}
    {reading : OrderText.Reading} {term : OrderText.Term} (hraw : .text raw ∈ statement.order)
    (hreading : OrderText.read? raw = some reading) (hterm : term ∈ reading.terms)
    (hname : term.table = some name)
    (hother : ∀ source ∈ (statement.visibleBeside schema
        (Query.rows (statement.withEager (some eager))).written.names eager).sources,
      OrderText.sameName source.1 name = false) :
    ¬statement.IsReadBeside schema eager := by
  intro hread
  rcases hread _ hraw with hempty | ⟨other, hsame, hnames⟩
  · obtain rfl : raw = "" := by simpa using hempty
    have hnone : OrderText.read? "" = none := rfl
    rw [hnone] at hreading
    cases hreading
  · obtain rfl : reading = other := Option.some.inj (hreading.symm.trans hsame)
    obtain ⟨place, hplace⟩ := (OrderText.names_iff_of_table hname).mp (hnames term hterm)
    rw [places_eq_nil hother] at hplace
    cases hplace

end Statement

end Sql

/-! ## The children -/

section Children

variable {database : Database} {settings : Settings} {association backward : String}
  {base statement : Statement} {options given : Value} {configure : Configure} {eager : Eager}
  {rows : List (List Item)}

/-- Without its limits a statement has the same sources. -/
lemma Sql.Statement.OfParents.over_of_unlimited {entity : Entity}
    (h : statement.unlimited.OfParents entity) : statement.Over entity :=
  ⟨h.isOver.root, h.isOver.occurs⟩

/-- Parameters that reach the database do so in the statement that loads children, too. -/
lemma isStored_withEager (hrun : Query.run database (.rows statement) = .ok rows) :
    ∀ parameter ∈ (Query.rows (statement.withEager (some eager))).written.parameters,
      parameter.IsStored := by
  intro parameter hmem
  refine (withParameters_eq_ok.mp hrun).1 parameter ?_
  rw [mem_parameters_written] at hmem ⊢
  exact hmem

/-- The families of a statement that runs are those of the records in its rows, if its ordering makes
sense next to children. -/
lemma families_of_run (hparents : statement.unlimited.OfParents eager.parent)
    (hkeys : database.KeysTell eager.parent) (hkeys' : database.KeysTell eager.target)
    (hrun : Query.run database (.rows statement) = .ok rows)
    (hlimits : statement.KeepsLimits database.schema eager) :
    (¬statement.IsReadBeside database.schema eager →
      (statement.withEager (some eager)).families database eager = .error .misread) ∧
    (statement.IsReadBeside database.schema eager → ∃ listing,
      (statement.withEager (some eager)).families database eager =
        .ok (listing.map fun family =>
          ⟨.record (recordOf eager.parent family.1), family.2.map (recordOf eager.target)⟩) ∧
      Lists database eager (fun row => row ∈ database.rows eager.parent.table ∧
        ∃ found ∈ rows, found.head? = some (.record (recordOf eager.parent row))) listing) := by
  let loading := statement.withEager (some eager)
  let names := (Query.rows loading).written.names
  have hover : statement.Over eager.parent := hparents.over_of_unlimited
  have hfirst : statement.selected.head? = some (.entity eager.parent eager.holder) :=
    hparents.first
  obtain ⟨kept, harranged, hrecords⟩ :=
    exists_kept_of_run hover hfirst hparents.counts hkeys hrun
  obtain ⟨parents, hfound, hscope, hsame⟩ :=
    Statement.exists_parents hover hkeys (List.mem_of_mem_head? hfirst) hlimits harranged
  have hloaded : loading.loaded? database names eager =
      (statement.keysBeside? database.schema names eager).map fun keys =>
        sortBy (keys ++ eager.sortKeys) (parents.flatMap (eager.extend database)) :=
    loading.loaded?_eq names eager database hlimits.behind hfound
  rw [← statement.isSome_keysBeside? database.schema eager]
  constructor
  · intro hunread
    rw [Option.not_isSome_iff_eq_none] at hunread
    obtain ⟨limits, -, keys, hkeys, -⟩ := Statement.arranged?_eq_some.mp harranged
    have hfault : misreading loading.order = .misread :=
      misreading_of_isRead (isSome_sortKeys?.mp (Option.isSome_of_eq_some hkeys))
        (Option.isSome_of_eq_some hlimits.behind)
    rw [Statement.families, hloaded, hunread, hfault]
    exact withParameters_none _ (isStored_withEager hrun)
  · intro hreads
    obtain ⟨keys, hsome⟩ := Option.isSome_iff_exists.mp hreads
    let loaded := sortBy (keys ++ eager.sortKeys) (parents.flatMap (eager.extend database))
    have hloads : Loads database eager (fun row => ∃ a ∈ parents, a.row eager.holder = row) loaded :=
      Statement.loads_of_kept hover (fun hmem => hparents.apart _ hmem rfl) hscope
        (sortBy_perm _ _)
    refine ⟨listingOf eager loaded, ?_, ?_⟩
    · rw [Statement.families, hloaded, hsome]
      exact withParameters_eq_ok.mpr
        ⟨isStored_withEager hrun, congrArg some (familiesOf_eq _ hfirst)⟩
    · simp only [← hrecords, ← hsame]
      exact lists_of_loads hloads hkeys hkeys'

/-- The statement of a query of parents is one of parents, limits aside. -/
lemma ofParents_of_query (hbase : base.unlimited.OfParents eager.parent)
    (hquery : (query database.schema settings base options configure).1 = .ok statement) :
    statement.unlimited.OfParents eager.parent := by
  have hroot : base.root = .entity eager.parent := hbase.isOver.root
  obtain ⟨definition, added, -, hadded, horder⟩ := exists_added_of_query hroot hquery
  obtain ⟨order, rfl⟩ := Statement.order_of_orderBy horder
  exact hbase.of_query hadded

/-- The children are fetched if the statement of the parents runs and its ordering makes sense next to
them. -/
lemma fetched_of_run (hbase : base.unlimited.OfParents eager.parent)
    (hcollection : IsOneToMany database association eager)
    (hback : LeadsBack eager given backward) (hkeys : database.KeysTell eager.parent)
    (hkeys' : database.KeysTell eager.target)
    (hquery : (query database.schema settings base options configure).1 = .ok statement)
    (hrun : Query.run database (.rows statement) = .ok rows)
    (hlimits : statement.KeepsLimits database.schema eager)
    (hreads : statement.IsReadBeside database.schema eager) :
    ∃ fetched listing,
      (queryChildren database settings association base options configure given).1 =
        .ok fetched ∧
      fetched.linked.families = listing.map (fun family =>
        (recordOf eager.parent family.1, family.2.map (recordOf eager.target))) ∧
      Lists database eager (fun row => row ∈ database.rows eager.parent.table ∧
        ∃ found ∈ rows, found.head? = some (.record (recordOf eager.parent row))) listing ∧
      fetched.linked.children.Nodup ∧
      ∀ family ∈ fetched.linked.families, ∀ child ∈ family.2,
        fetched.linked.session.held? child backward = some (.record family.1) := by
  have hroot : base.root = .entity eager.parent := hbase.isOver.root
  have hparents := ofParents_of_query hbase hquery
  have hfirst : statement.selected.head? = some (.entity eager.parent eager.holder) :=
    hparents.first
  obtain ⟨listing, hfamilies, hlists⟩ :=
    (families_of_run hparents hkeys hkeys' hrun hlimits).2 hreads
  obtain ⟨fetched, hfetched, hlisted, hnodup, hheld⟩ := fetched_of_families hroot
    hcollection hback hkeys' hquery hfirst hfamilies hlists fun row hrow => hrow.1
  exact ⟨fetched, listing, hfetched, hlisted, hlists, hnodup, hheld⟩

/-- **The children.**  If the statement of the parents runs, their children are fetched exactly if its
ordering makes sense next to them.  They are the children of those parents whose records come back. -/
theorem queryChildren_of_run (hbase : base.unlimited.OfParents eager.parent)
    (hcollection : IsOneToMany database association eager)
    (hback : LeadsBack eager given backward) (hkeys : database.KeysTell eager.parent)
    (hkeys' : database.KeysTell eager.target)
    (hquery : (query database.schema settings base options configure).1 = .ok statement)
    (hrun : Query.run database (.rows statement) = .ok rows)
    (hlimits : statement.KeepsLimits database.schema eager) :
    (¬statement.IsReadBeside database.schema eager →
      (queryChildren database settings association base options configure given).1 =
        .error (.run .misread)) ∧
    (statement.IsReadBeside database.schema eager → ∃ fetched listing,
      (queryChildren database settings association base options configure given).1 =
        .ok fetched ∧
      fetched.linked.families = listing.map (fun family =>
        (recordOf eager.parent family.1, family.2.map (recordOf eager.target))) ∧
      Lists database eager (fun row => row ∈ database.rows eager.parent.table ∧
        ∃ found ∈ rows, found.head? = some (.record (recordOf eager.parent row))) listing ∧
      fetched.linked.children.Nodup ∧
      ∀ family ∈ fetched.linked.families, ∀ child ∈ family.2,
        fetched.linked.session.held? child backward = some (.record family.1)) := by
  have hroot : base.root = .entity eager.parent := hbase.isOver.root
  have hparents := ofParents_of_query hbase hquery
  refine ⟨fun hunread => ?_, fetched_of_run hbase hcollection hback hkeys hkeys' hquery hrun hlimits⟩
  rw [queryChildren_of_query hroot hcollection hback hquery hparents.first,
    (families_of_run hparents hkeys hkeys' hrun hlimits).1 hunread]
  rfl

/-- **Columns.**  If the statement of the parents runs and is ordered by their columns, their children
are fetched, limits or not. -/
theorem queryChildren_of_columns (hbase : base.unlimited.OfParents eager.parent)
    (hcollection : IsOneToMany database association eager)
    (hback : LeadsBack eager given backward) (hkeys : database.KeysTell eager.parent)
    (hkeys' : database.KeysTell eager.target)
    (hquery : (query database.schema settings base options configure).1 = .ok statement)
    (hrun : Query.run database (.rows statement) = .ok rows)
    (horder : IsByColumnsOf eager.parent statement.order) (hdistinct : statement.distinct = false) :
    ∃ fetched listing,
      (queryChildren database settings association base options configure given).1 =
        .ok fetched ∧
      fetched.linked.families = listing.map (fun family =>
        (recordOf eager.parent family.1, family.2.map (recordOf eager.target))) ∧
      Lists database eager (fun row => row ∈ database.rows eager.parent.table ∧
        ∃ found ∈ rows, found.head? = some (.record (recordOf eager.parent row))) listing := by
  have hparents := ofParents_of_query hbase hquery
  have hover : statement.Over eager.parent := hparents.over_of_unlimited
  obtain ⟨fetched, listing, hfetched, hlisted, hlists, -, -⟩ :=
    fetched_of_run hbase hcollection hback hkeys hkeys' hquery hrun
      (Statement.KeepsLimits.of_columns database.schema hover horder hdistinct)
      (Statement.isReadBeside_of_columns database.schema hover horder)
  exact ⟨fetched, listing, hfetched, hlisted, hlists⟩

end Children

namespace Sample

/-- Two posts at most. -/
def twoPosts : Statement :=
  { allPosts with limit := some 2 }

/-- The latest posts first, by the bare name of the column. -/
def byBareDate : Definition :=
  ⟨[], [.text "posted_date DESC"]⟩

/-- The latest posts first, by the name of the column behind that of its table. -/
def byQualifiedDate : Definition :=
  ⟨[], [.text "posts.posted_date DESC, posts.id DESC"]⟩

/-- Two posts, ordered as a definition says. -/
def twoPostsBy (definition : Definition) : Statement :=
  { twoPosts with order := (definition.ordering.mapM OrderClause.term).toOption.getD [] }

lemma query_twoPostsBy_bare :
    (query database.schema .default twoPosts .null (.definition byBareDate)).1 =
      .ok (twoPostsBy byBareDate) := rfl

lemma query_twoPostsBy_qualified :
    (query database.schema .default twoPosts .null (.definition byQualifiedDate)).1 =
      .ok (twoPostsBy byQualifiedDate) := rfl

lemma twoPosts_ofParents : twoPosts.unlimited.OfParents postComments.parent :=
  allPosts_ofParents

lemma keepsLimits_twoPostsBy_bare :
    (twoPostsBy byBareDate).KeepsLimits database.schema postComments where
  behind := by decide +kernel
  keys _ := by decide +kernel
  shows _ hdistinct := by cases hdistinct

lemma isReadBeside_twoPostsBy_bare :
    (twoPostsBy byBareDate).IsReadBeside database.schema postComments :=
  (Statement.isSome_keysBeside? _ _ _).mp (by decide +kernel)

lemma isStored_twoPostsBy (definition : Definition)
    (h : (twoPostsBy definition).order.flatMap OrderTerm.parameters = []) :
    ∀ parameter ∈ (twoPostsBy definition).parameters, parameter.IsStored := by
  have hlimits : (twoPostsBy definition).parameters =
      [.given .integer (.int 2), .given .integer (.int 0)] := by
    rw [Statement.parameters, h]
    rfl
  rw [hlimits]
  simp only [List.forall_mem_cons]
  exact ⟨⟨_, _, _, rfl, rfl⟩, ⟨_, _, _, rfl, rfl⟩, List.forall_mem_nil _⟩

lemma run_twoPostsBy_bare :
    ∃ rows, Query.run database (.rows (twoPostsBy byBareDate)) = .ok rows :=
  Statement.exists_run_iff.mpr ⟨isStored_twoPostsBy _ rfl, by decide +kernel, by decide +kernel⟩

lemma run_twoPostsBy_qualified :
    ∃ rows, Query.run database (.rows (twoPostsBy byQualifiedDate)) = .ok rows :=
  Statement.exists_run_iff.mpr ⟨isStored_twoPostsBy _ rfl, by decide +kernel, by decide +kernel⟩

lemma families_twoPostsBy_qualified :
    ((twoPostsBy byQualifiedDate).withEager (some postComments)).families database postComments =
      .error .misread := by
  decide +kernel

lemma queryChildren_twoPostsBy_qualified :
    (queryChildren database .default "comments" twoPosts .null (.definition byQualifiedDate)
      .null).1 = .error (.run .misread) := by
  rw [queryChildren_of_query rfl isOneToMany_postComments leadsBack_postComments
    query_twoPostsBy_qualified rfl, families_twoPostsBy_qualified]
  rfl

end Sample

/-- The children of the two latest posts, by the bare name of the column. -/
theorem queryChildren_of_run_limited : ∃ rows fetched listing,
    Query.run Sample.database (.rows (Sample.twoPostsBy Sample.byBareDate)) = .ok rows ∧
    (queryChildren Sample.database .default "comments" Sample.twoPosts .null
      (.definition Sample.byBareDate) .null).1 = .ok fetched ∧
    fetched.linked.families = listing.map (fun family =>
      (recordOf Sample.post family.1, family.2.map (recordOf Sample.comment))) ∧
    Lists Sample.database Sample.postComments (fun row => row ∈ Sample.database.rows "posts" ∧
      ∃ found ∈ rows, found.head? = some (.record (recordOf Sample.post row))) listing ∧
    fetched.linked.children.Nodup ∧
    ∀ family ∈ fetched.linked.families, ∀ child ∈ family.2,
      fetched.linked.session.held? child "post" = some (.record family.1) := by
  obtain ⟨rows, hrun⟩ := Sample.run_twoPostsBy_bare
  obtain ⟨fetched, listing, hfetched, hrest⟩ :=
    (queryChildren_of_run Sample.twoPosts_ofParents Sample.isOneToMany_postComments
      Sample.leadsBack_postComments Sample.keysTell_post Sample.keysTell_comment
      Sample.query_twoPostsBy_bare hrun Sample.keepsLimits_twoPostsBy_bare).2
      Sample.isReadBeside_twoPostsBy_bare
  exact ⟨rows, fetched, listing, hrun, hfetched, hrest⟩

/-- Next to children the table of limited parents is out of sight: a text that names it runs where the
parents are selected, and fails where their children are fetched. -/
theorem not_queryChildren_of_limited :
    (query Sample.database.schema .default Sample.twoPosts .null
        (.definition Sample.byQualifiedDate)).1 =
      .ok (Sample.twoPostsBy Sample.byQualifiedDate) ∧
    (∃ rows, Query.run Sample.database (.rows (Sample.twoPostsBy Sample.byQualifiedDate)) =
      .ok rows) ∧
    (queryChildren Sample.database .default "comments" Sample.twoPosts .null
      (.definition Sample.byQualifiedDate) .null).1 = .error (.run .misread) :=
  ⟨Sample.query_twoPostsBy_qualified, Sample.run_twoPostsBy_qualified,
    Sample.queryChildren_twoPostsBy_qualified⟩

end FilterQuery
