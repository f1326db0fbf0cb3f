import Mathlib.Data.List.Forall2
import Mathlib.Tactic.Common
import FilterQuery.Proofs.Sorted
import FilterQuery.Sql.Result

/-!
# The rows of a run

What comes back when a statement is run, in terms of what it selects.

**Faults.**  `bind_eq_ok`, `map_eq_ok`, `mapError_eq_ok` and `mapM_eq_ok` say when computations that may
fail do not.

**Parameters.**  `withParameters_eq_ok`: a run gives a result exactly if the database finds one and
every parameter reaches it.  So only the set of the parameters counts, and not their order.

**Rows.**  `Statement.fetch` are the rows as they come back, repetitions included; a run lists each
of them once.  Ordering only rearranges what a statement selects, and `DISTINCT` drops nothing but
repetitions: `fetch_perm` and `mem_fetch_iff`.
-/

namespace FilterQuery.Sql

/-! ## Faults -/

section Faults

variable {α β ε ε' : Type}

lemma bind_eq_ok {x : Except ε α} {f : α → Except ε β} {b : β} :
    (x >>= f) = .ok b ↔ ∃ a, x = .ok a ∧ f a = .ok b := by
  cases x <;> simp [bind, Except.bind]

lemma map_eq_ok {x : Except ε α} {f : α → β} {b : β} :
    x.map f = .ok b ↔ ∃ a, x = .ok a ∧ f a = b := by
  cases x <;> simp [Except.map]

lemma mapError_eq_ok {x : Except ε α} {f : ε → ε'} {a : α} :
    x.mapError f = .ok a ↔ x = .ok a := by
  cases x <;> simp [Except.mapError]

lemma mapM_eq_ok {f : α → Except ε β} {list : List α} {results : List β} :
    list.mapM f = .ok results ↔ List.Forall₂ (fun a b => f a = .ok b) list results := by
  induction list generalizing results with
  | nil => simp [pure, Except.pure, eq_comm]
  | cons a rest ih =>
      simp only [List.mapM_cons, bind_eq_ok, ih, pure, Except.pure, Except.ok.injEq,
        List.forall₂_cons_left_iff]
      constructor
      · rintro ⟨b, hb, others, hothers, rfl⟩
        exact ⟨b, others, hb, hothers, rfl⟩
      · rintro ⟨b, others, hb, hothers, rfl⟩
        exact ⟨b, hb, others, hothers, rfl⟩

end Faults

/-! ## Parameters -/

/-- A parameter has a value and reaches the database. -/
def Parameter.IsStored (parameter : Parameter) : Prop :=
  ∃ type value cell, parameter = .given type value ∧ Binding.cell? type value = .ok cell

/-- Both steps of a parameter. -/
lemma cell?_eq_ok {type : ColumnType} {value : Value} {cell : Cell} :
    Binding.cell? type value = .ok cell ↔
      ∃ sent, Binding.convert type value = .ok sent ∧ Binding.store sent = .ok cell :=
  bind_eq_ok

private lemma forIn_missing_eq_ok {parameters : List Parameter} :
    (forIn parameters PUnit.unit fun parameter _ =>
      match parameter with
      | .missing name => do
        throw (RunFault.missingValue name)
        pure (ForInStep.yield PUnit.unit)
      | _ => pure (ForInStep.yield PUnit.unit) : Except RunFault PUnit) = .ok ⟨⟩ ↔
      ∀ parameter ∈ parameters, ∃ type value, parameter = .given type value := by
  induction parameters with
  | nil => simp [pure, Except.pure]
  | cons parameter rest ih =>
      rw [List.forIn_cons, List.forall_mem_cons, ← ih]
      cases parameter with
      | given type value => simp
      | missing name => simp [throw, throwThe, MonadExceptOf.throw, bind, Except.bind]

private lemma forIn_store_eq_ok {sent : List Value} :
    (forIn sent PUnit.unit fun value _ => do
      let _ ← (Binding.store value).mapError RunFault.ofBind
      pure (ForInStep.yield PUnit.unit) : Except RunFault PUnit) = .ok ⟨⟩ ↔
      ∀ value ∈ sent, ∃ cell, Binding.store value = .ok cell := by
  induction sent with
  | nil => simp [pure, Except.pure]
  | cons value rest ih =>
      rw [List.forIn_cons, List.forall_mem_cons, ← ih]
      cases Binding.store value with
      | ok cell =>
          simp [Except.mapError]
          rfl
      | error fault => simp [Except.mapError, bind, Except.bind]

/-- The first step succeeds if all parameters have values and none of them is refused. -/
lemma convertParameters_eq_ok {parameters : List Parameter} {sent : List Value} :
    convertParameters parameters = .ok sent ↔
      List.Forall₂ (fun parameter value => ∃ type given, parameter = .given type given ∧
        Binding.convert type given = .ok value) parameters sent := by
  have hone : ∀ parameter value, ((∃ type given, parameter = Parameter.given type given) ∧
      convertParameter parameter = .ok value) ↔ ∃ type given, parameter = .given type given ∧
        Binding.convert type given = .ok value := by
    intro parameter value
    constructor
    · rintro ⟨⟨type, given, rfl⟩, hconvert⟩
      exact ⟨type, given, rfl, mapError_eq_ok.mp hconvert⟩
    · rintro ⟨type, given, rfl, hconvert⟩
      exact ⟨⟨type, given, rfl⟩, mapError_eq_ok.mpr hconvert⟩
  simp only [← hone, List.forall₂_and_left, ← mapM_eq_ok]
  rw [convertParameters]
  rw [bind_eq_ok]
  constructor
  · rintro ⟨⟨⟩, hgiven, hsent⟩
    exact ⟨forIn_missing_eq_ok.mp hgiven, hsent⟩
  · rintro ⟨hgiven, hsent⟩
    exact ⟨⟨⟩, forIn_missing_eq_ok.mpr hgiven, hsent⟩

/-- Both steps succeed for all parameters together exactly if they do for each of them. -/
lemma exists_sent_iff {parameters : List Parameter} :
    (∃ sent, convertParameters parameters = .ok sent ∧
      ∀ value ∈ sent, ∃ cell, Binding.store value = .ok cell) ↔
      ∀ parameter ∈ parameters, parameter.IsStored := by
  simp only [convertParameters_eq_ok]
  induction parameters with
  | nil => simp
  | cons parameter rest ih =>
      rw [List.forall_mem_cons, ← ih]
      simp only [List.forall₂_cons_left_iff]
      constructor
      · rintro ⟨_, ⟨value, others, ⟨type, given, rfl, hconvert⟩, hothers, rfl⟩, hstored⟩
        obtain ⟨⟨cell, hcell⟩, hrest⟩ := List.forall_mem_cons.mp hstored
        exact ⟨⟨type, given, cell, rfl, cell?_eq_ok.mpr ⟨value, hconvert, hcell⟩⟩,
          others, hothers, hrest⟩
      · rintro ⟨⟨type, given, cell, rfl, hcell⟩, others, hothers, hrest⟩
        obtain ⟨value, hconvert, hvalue⟩ := cell?_eq_ok.mp hcell
        exact ⟨value :: others, ⟨value, others, ⟨type, given, rfl, hconvert⟩, hothers, rfl⟩,
          List.forall_mem_cons.mpr ⟨⟨cell, hvalue⟩, hrest⟩⟩

/-- **Parameters.**  A run gives a result exactly if there is one and all parameters reach the
database. -/
theorem withParameters_eq_ok {α : Type} {fault : RunFault} {parameters : List Parameter}
    {result? : Option α} {result : α} :
    withParameters fault parameters result? = .ok result ↔
      (∀ parameter ∈ parameters, parameter.IsStored) ∧ result? = some result := by
  rw [withParameters]
  rw [bind_eq_ok, ← exists_sent_iff]
  cases result? with
  | none => simp [throw, throwThe, MonadExceptOf.throw]
  | some found =>
      simp only [bind_eq_ok]
      constructor
      · rintro ⟨sent, hsent, ⟨⟩, hstored, hresult⟩
        exact ⟨⟨sent, hsent, forIn_store_eq_ok.mp hstored⟩, congrArg some (Except.ok.inj hresult)⟩
      · rintro ⟨⟨sent, hsent, hstored⟩, hresult⟩
        exact ⟨sent, hsent, ⟨⟩, forIn_store_eq_ok.mpr hstored,
          congrArg Except.ok (Option.some.inj hresult)⟩

/-- Where the parameters reach the database, the fault is why there is no result. -/
lemma withParameters_none {α : Type} {parameters : List Parameter} (fault : RunFault)
    (h : ∀ parameter ∈ parameters, parameter.IsStored) :
    withParameters fault parameters (none : Option α) = .error fault := by
  obtain ⟨sent, hsent, -⟩ := exists_sent_iff.mpr h
  rw [withParameters, hsent]
  rfl

/-- What is done with a result is done at the end of the run. -/
lemma withParameters_map {α β : Type} (f : α → β) (fault : RunFault)
    (parameters : List Parameter) (result? : Option α) :
    withParameters fault parameters (result?.map f) =
      (withParameters fault parameters result?).map f := by
  simp only [withParameters]
  cases convertParameters parameters with
  | error fault => rfl
  | ok sent =>
      cases result? with
      | none => rfl
      | some result =>
          simp only [Option.map_some, bind, Except.bind]
          cases hstored : (forIn sent PUnit.unit fun value _ => do
              let _ ← (Binding.store value).mapError RunFault.ofBind
              pure (ForInStep.yield PUnit.unit) : Except RunFault PUnit) with
          | error fault =>
              simp only [bind, Except.bind] at hstored
              rw [hstored]
              rfl
          | ok _ =>
              simp only [bind, Except.bind] at hstored
              rw [hstored]
              rfl

/-- Whether a run fails, and how, depends on the parameters alone once there is a result. -/
lemma withParameters_eq_error {α β : Type} {why other : RunFault}
    {parameters : List Parameter} {result : α} {fault : RunFault}
    (h : withParameters why parameters (some result) = .error fault) (found : β) :
    withParameters other parameters (some found) = .error fault := by
  have hmap := withParameters_map (fun _ => found) why parameters (some result)
  rw [Option.map_some, h] at hmap
  exact hmap

/-! ## Repetitions

Rows, cells and parents that come a second time are left out.  The first of each kind stays, in its
place.
-/

/-- The first of each group of things with the same mark. -/
def firstsBy {α κ : Type} [BEq κ] (mark : α → κ) (items : List α) : List α :=
  items.foldl (fun known item =>
    if known.any fun other => mark other == mark item then known else known ++ [item]) []

section Repetitions

variable {α κ : Type} [BEq κ] [LawfulBEq κ] {mark : α → κ} {items : List α}

/-- What is left of some items behind others that are there already. -/
private lemma firstsBy_from (mark : α → κ) (items known : List α) :
    ∃ added, items.foldl (fun known item =>
        if known.any fun other => mark other == mark item then known else known ++ [item]) known =
          known ++ added ∧ added.Sublist items ∧
      (∀ item ∈ items, ∃ kept ∈ known ++ added, mark kept = mark item) ∧
      ((known.map mark).Nodup → ((known ++ added).map mark).Nodup) := by
  induction items generalizing known with
  | nil => exact ⟨[], by simp, .slnil, by simp, by simp⟩
  | cons item rest ih =>
      rw [List.foldl_cons]
      by_cases hknown : known.any fun other => mark other == mark item
      · obtain ⟨added, heq, hsub, hall, hnodup⟩ := ih known
        rw [if_pos hknown]
        refine ⟨added, heq, hsub.cons item, ?_, hnodup⟩
        obtain ⟨other, hother, hmark⟩ := List.any_eq_true.mp hknown
        exact List.forall_mem_cons.mpr
          ⟨⟨other, List.mem_append_left _ hother, eq_of_beq hmark⟩, hall⟩
      · obtain ⟨added, heq, hsub, hall, hnodup⟩ := ih (known ++ [item])
        have hassoc : known ++ [item] ++ added = known ++ item :: added := by simp
        rw [hassoc] at heq hall hnodup
        rw [if_neg hknown, heq]
        refine ⟨item :: added, rfl, hsub.cons_cons item, ?_, fun h => hnodup ?_⟩
        · exact List.forall_mem_cons.mpr ⟨⟨item, by simp, rfl⟩, hall⟩
        · rw [List.map_append, List.nodup_append]
          refine ⟨h, by simp, ?_⟩
          intro first hfirst second hsecond hsame
          obtain ⟨other, hother, rfl⟩ := List.mem_map.mp hfirst
          obtain rfl : second = mark item := by simpa using hsecond
          exact hknown (List.any_eq_true.mpr ⟨other, hother, beq_iff_eq.mpr hsame⟩)

/-- What stays keeps its order. -/
lemma firstsBy_sublist : (firstsBy mark items).Sublist items := by
  obtain ⟨added, heq, hsub, -, -⟩ := firstsBy_from mark items []
  rw [firstsBy, heq]
  exact hsub

/-- Something stays of each kind. -/
lemma exists_mem_firstsBy (mark : α → κ) {item : α} (h : item ∈ items) :
    ∃ kept ∈ firstsBy mark items, mark kept = mark item := by
  obtain ⟨added, heq, -, hall, -⟩ := firstsBy_from mark items []
  rw [firstsBy, heq]
  exact hall item h

/-- Nothing of a kind stays twice. -/
lemma nodup_firstsBy : ((firstsBy mark items).map mark).Nodup := by
  obtain ⟨added, heq, -, -, hnodup⟩ := firstsBy_from mark items []
  rw [firstsBy, heq]
  exact hnodup List.nodup_nil

end Repetitions

/-- The rows of a run are the first of each group of equal ones. -/
lemma unique_eq_firstsBy {α : Type} [BEq α] [LawfulBEq α] (items : List α) :
    unique items = firstsBy id items := by
  rw [unique, firstsBy]
  congr
  funext known item
  simp [BEq.comm]

/-- Each thing is listed. -/
lemma mem_unique {α : Type} [BEq α] [LawfulBEq α] {items : List α} {item : α} :
    item ∈ unique items ↔ item ∈ items := by
  rw [unique_eq_firstsBy]
  constructor
  · exact fun h => firstsBy_sublist.subset h
  · intro h
    obtain ⟨kept, hkept, rfl⟩ := exists_mem_firstsBy id h
    exact hkept

/-! ## Rows -/

/-- Limits leave out rows at either end and nothing else. -/
lemma window_sublist {α : Type} (limits : Limits) (items : List α) :
    (window limits items).Sublist items := by
  have hdropped : (items.drop (limits.offset.getD 0).toNat).Sublist items :=
    List.drop_sublist _ _
  cases hlimit : limits.limit with
  | none => simpa only [window, hlimit] using hdropped
  | some most =>
      simp only [window, hlimit]
      split
      · exact hdropped
      · exact (List.take_sublist _ _).trans hdropped

@[simp] lemma window_absent {α : Type} (items : List α) : window .absent items = items := rfl

namespace Statement

/-- The rows of a statement as they come back, each as often as it does. -/
def fetch (database : Database) (statement : Statement) : Except RunFault (List (List Item)) :=
  withParameters (misreading statement.order) (Query.rows statement).written.parameters <|
    (statement.arranged? database (Query.rows statement).written.names false
      statement.shown).map statement.items

/-- Two statements give the same rows of a database: they select the same, each as often, they have the
same ordering, and whatever comes back of one comes back of the other. -/
structure SameRows (database : Database) (one other : Statement) : Prop where
  scope : one.scope database = other.scope database
  order : one.order = other.order
  fetch : ∀ rows, one.fetch database = .ok rows ↔ other.fetch database = .ok rows

lemma SameRows.refl (database : Database) (statement : Statement) :
    statement.SameRows database statement :=
  ⟨rfl, rfl, fun _ => Iff.rfl⟩

/-- A statement without limits of its own. -/
def HasNoLimits (statement : Statement) : Prop :=
  statement.limit = none ∧ statement.offset = none

/-- A statement that leaves out no rows at either end: it has no limits, and its ordering ends in
none. -/
def IsWhole (statement : Statement) : Prop :=
  statement.limits? = some .absent

/-- What comes back for an assignment. -/
def record (statement : Statement) (assignment : Assignment) : List Item :=
  statement.selected.map (Selected.item assignment)

variable {database : Database} {statement : Statement}

lemma isWhole_iff :
    statement.IsWhole ↔ statement.HasNoLimits ∧ orderLimits? statement.order = some .absent := by
  have hown : (⟨statement.limit, statement.offset⟩ : Limits) = .absent ↔ statement.HasNoLimits :=
    Limits.mk.injEq .. ▸ Iff.rfl
  rw [IsWhole, limits?, ← hown]
  cases orderLimits? statement.order with
  | none => simp
  | some behind =>
      by_cases hbehind : behind = .absent
      · simp [hbehind]
      · by_cases hnone : (⟨statement.limit, statement.offset⟩ : Limits) = .absent <;>
          simp [hbehind, hnone]

/-- What is arranged is read by the limits and the sort keys of the statement. -/
lemma arranged?_eq_some {names : Naming} {inSubquery : Bool} {shown : List Shown}
    {found : List Assignment} :
    statement.arranged? database names inSubquery shown = some found ↔
      ∃ limits, statement.limits? = some limits ∧
        ∃ keys, sortKeys? (statement.visible database.schema names inSubquery [] shown)
            statement.sources shown statement.order = some keys ∧
          window limits
            (let sorted := sortBy keys (statement.scope database)
            if statement.distinct then distinctBy shown sorted else sorted) = found := by
  simp only [arranged?, Option.bind_eq_bind, Option.bind_eq_some_iff, Option.some.injEq,
    Option.pure_def]

/-- **Ordering rearranges.** -/
lemma arranged_perm {names : Naming} {inSubquery : Bool} {shown : List Shown}
    {assignments : List Assignment} (hwhole : statement.IsWhole)
    (hdistinct : statement.distinct = false)
    (h : statement.arranged? database names inSubquery shown = some assignments) :
    assignments.Perm (statement.scope database) := by
  obtain ⟨limits, hlimits, keys, -, rfl⟩ := arranged?_eq_some.mp h
  obtain rfl : .absent = limits := Option.some.inj (hwhole.symm.trans hlimits)
  simpa [hdistinct] using sortBy_perm keys (statement.scope database)

/-- **The rows that come back** are those of the assignments that a statement selects, each as
often. -/
theorem fetch_perm {rows : List (List Item)} (hwhole : statement.IsWhole)
    (hdistinct : statement.distinct = false)
    (hcounts : statement.selected.any Selected.isCount = false)
    (h : statement.fetch database = .ok rows) :
    rows.Perm ((statement.scope database).map statement.record) := by
  obtain ⟨-, hrows⟩ := withParameters_eq_ok.mp h
  obtain ⟨assignments, harranged, rfl⟩ := Option.map_eq_some_iff.mp hrows
  rw [items, hcounts, if_neg Bool.false_ne_true]
  exact (arranged_perm hwhole hdistinct harranged).map _

end Statement

/-! ## Shown cells

What comes back for an assignment is made of cells that are shown, so assignments that show the same
cells are the same to whoever sees the result.
-/

/-- The places that a selected thing is made of. -/
def Selected.places : Selected → List Place
  | .entity owner source => owner.columns.map fun column => ⟨source, column.name⟩
  | .column _ ref => [ref.place]
  | .count _ ref => [ref.place]

/-- A selected thing is made of the cells at its places. -/
lemma Selected.item_congr {selected : Selected} {a b : Assignment}
    (h : ∀ place ∈ selected.places, a.cell place = b.cell place) :
    selected.item a = selected.item b := by
  cases selected with
  | entity owner source =>
      have hkey : Entity.keyOf owner (a.row source) = Entity.keyOf owner (b.row source) := by
        refine List.map_congr_left fun column hcolumn => ?_
        exact h ⟨source, column.name⟩
          (List.mem_map.mpr ⟨column, List.mem_of_mem_filter hcolumn, rfl⟩)
      simp only [Selected.item, recordOf, hkey]
  | column owner ref => simp only [Selected.item, h ref.place (List.mem_singleton.mpr rfl)]
  | count owner ref => simp only [Selected.item, h ref.place (List.mem_singleton.mpr rfl)]

/-- A place that is added is shown, and none is hidden by it. -/
lemma Shown.places_add (once : Bool) (known : List Shown) (place : Place) :
    known.map Shown.place ⊆ (Shown.add once known place).map Shown.place ∧
      place ∈ (Shown.add once known place).map Shown.place := by
  rw [Shown.add]
  split
  · rename_i hknown
    obtain ⟨column, hcolumn, hsame⟩ := List.any_eq_true.mp hknown
    rw [Bool.and_eq_true, beq_iff_eq] at hsame
    cases once with
    | true => exact ⟨fun _ h => h, List.mem_map.mpr ⟨column, hcolumn, hsame.1⟩⟩
    | false => simp
  · split <;> simp

/-- A selected thing shows all its places. -/
lemma Shown.places_addSelected (known : List Shown) (selected : Selected) :
    known.map Shown.place ⊆ (Shown.addSelected known selected).map Shown.place ∧
      selected.places ⊆ (Shown.addSelected known selected).map Shown.place := by
  cases selected with
  | entity owner source =>
      simp only [Shown.addSelected, Selected.places]
      induction owner.columns generalizing known with
      | nil => simp
      | cons column rest ih =>
          obtain ⟨hkeep, hplace⟩ := Shown.places_add true known ⟨source, column.name⟩
          obtain ⟨hmore, hrest⟩ := ih (Shown.add true known ⟨source, column.name⟩)
          rw [List.foldl_cons, List.map_cons, List.cons_subset]
          exact ⟨List.Subset.trans hkeep hmore, hmore hplace, hrest⟩
  | column owner ref =>
      obtain ⟨hkeep, hplace⟩ := Shown.places_add false known ref.place
      refine ⟨hkeep, fun place hmem => ?_⟩
      rw [List.mem_singleton.mp hmem]
      exact hplace
  | count owner ref => simp [Shown.addSelected, Selected.places]

namespace Statement

variable {database : Database} {statement : Statement}

/-- Whatever is selected is shown. -/
lemma places_subset_shown {selected : Selected} (h : selected ∈ statement.selected) :
    selected.places ⊆ statement.shown.map Shown.place := by
  have hgeneral : ∀ (all : List Selected) (known : List Shown),
      known.map Shown.place ⊆ (all.foldl Shown.addSelected known).map Shown.place ∧
        ∀ one ∈ all, one.places ⊆ (all.foldl Shown.addSelected known).map Shown.place := by
    intro all
    induction all with
    | nil => simp
    | cons first rest ih =>
        intro known
        obtain ⟨hkeep, hfirst⟩ := Shown.places_addSelected known first
        obtain ⟨hmore, hrest⟩ := ih (Shown.addSelected known first)
        rw [List.foldl_cons, List.forall_mem_cons]
        exact ⟨List.Subset.trans hkeep hmore, List.Subset.trans hfirst hmore, hrest⟩
  exact (hgeneral statement.selected []).2 selected h

/-- Assignments that show the same cells come back as the same. -/
lemma record_congr {a b : Assignment}
    (h : (statement.shown.map fun column => a.cell column.place) =
      statement.shown.map fun column => b.cell column.place) :
    statement.record a = statement.record b := by
  refine List.map_congr_left fun selected hselected => ?_
  refine Selected.item_congr fun place hplace => ?_
  obtain ⟨column, hcolumn, rfl⟩ := List.mem_map.mp (places_subset_shown hselected hplace)
  exact List.map_inj_left.mp h column hcolumn

/-- Whatever is kept of the assignments is one of them. -/
lemma mem_scope_of_arranged {names : Naming} {inSubquery : Bool} {shown : List Shown}
    {found : List Assignment} (h : statement.arranged? database names inSubquery shown = some found)
    {a : Assignment} (ha : a ∈ found) : a ∈ statement.scope database := by
  obtain ⟨limits, -, keys, -, rfl⟩ := arranged?_eq_some.mp h
  have hsorted := (window_sublist _ _).subset ha
  refine (sortBy_perm keys (statement.scope database)).mem_iff.mp ?_
  split at hsorted
  · exact firstsBy_sublist.subset hsorted
  · exact hsorted

/-- Of assignments that show the same cells one is kept. -/
lemma exists_mem_arranged {names : Naming} {inSubquery : Bool} {shown : List Shown}
    {found : List Assignment} (hwhole : statement.IsWhole)
    (h : statement.arranged? database names inSubquery shown = some found)
    {a : Assignment} (ha : a ∈ statement.scope database) :
    ∃ b ∈ found, (shown.map fun column => b.cell column.place) =
      shown.map fun column => a.cell column.place := by
  cases hdistinct : statement.distinct with
  | false => exact ⟨a, (arranged_perm hwhole hdistinct h).mem_iff.mpr ha, rfl⟩
  | true =>
      obtain ⟨limits, hlimits, keys, -, hfound⟩ := arranged?_eq_some.mp h
      obtain rfl : .absent = limits := Option.some.inj (hwhole.symm.trans hlimits)
      rw [window_absent, hdistinct] at hfound
      let cells (assignment : Assignment) : List Cell :=
        shown.map fun column => assignment.cell column.place
      obtain rfl : firstsBy cells (sortBy keys (statement.scope database)) = found := hfound
      exact exists_mem_firstsBy cells ((sortBy_perm _ _).mem_iff.mpr ha)

/-- Of assignments that come back as the same one is kept, and none is made up. -/
lemma mem_arranged_iff {names : Naming} {inSubquery : Bool} {assignments : List Assignment}
    (hwhole : statement.IsWhole)
    (h : statement.arranged? database names inSubquery statement.shown = some assignments)
    {row : List Item} :
    (∃ assignment ∈ assignments, row = statement.record assignment) ↔
      ∃ assignment ∈ statement.scope database, row = statement.record assignment := by
  constructor
  · rintro ⟨assignment, hmem, rfl⟩
    exact ⟨assignment, mem_scope_of_arranged h hmem, rfl⟩
  · rintro ⟨assignment, hmem, rfl⟩
    obtain ⟨kept, hkept, hsame⟩ := exists_mem_arranged hwhole h hmem
    exact ⟨kept, hkept, (record_congr hsame).symm⟩

/-- The records that a statement selects. -/
def Selects (database : Database) (statement : Statement) (row : List Item) : Prop :=
  ∃ assignment ∈ statement.scope database, row = statement.record assignment

/-- **The records that come back** are those that a statement selects, whether or not it drops
repetitions. -/
theorem mem_fetch_iff {rows : List (List Item)} (hwhole : statement.IsWhole)
    (hcounts : statement.selected.any Selected.isCount = false)
    (h : statement.fetch database = .ok rows) {row : List Item} :
    row ∈ rows ↔ statement.Selects database row := by
  obtain ⟨-, hrows⟩ := withParameters_eq_ok.mp h
  obtain ⟨assignments, harranged, rfl⟩ := Option.map_eq_some_iff.mp hrows
  rw [Selects, ← mem_arranged_iff hwhole harranged, items, hcounts, if_neg Bool.false_ne_true,
    List.mem_map]
  simp only [record, eq_comm]

end Statement

end FilterQuery.Sql
