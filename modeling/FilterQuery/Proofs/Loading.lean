import Mathlib.Tactic.Common
import FilterQuery.Proofs.JoinedRows
import FilterQuery.Proofs.Meaning
import FilterQuery.Proofs.Parameters
import FilterQuery.Proofs.Rows

/-!
# Rows that are loaded with children

A statement that loads children along comes back as one sorted list in which every parent stands
next to each of its children.  This file says what is in that list.

**Orderings.**  `sortKeys?_of_columns`: an ordering by columns of the root entity always makes sense,
and its sort keys can be read off it.

**One parent.**  `Eager.mem_extend` and `Eager.exists_mem_extend`: a parent is kept, with each
related row once more, and nothing that it had before changes.

**All of them.**  `Statement.loaded?_eq_some`: what is loaded is sorted by the ordering first and by
the declared order of the children second, and has the parents that the statement selects.
-/

namespace FilterQuery

open FilterQuery.Sql

namespace Sql

/-! ## Orderings -/

/-- The sort keys of an ordering term; none if the term is no column. -/
def OrderTerm.keys : OrderTerm → List SortKey
  | .column ref descending emptyFirst => [⟨ref.place, descending.getD false, emptyFirst⟩]
  | _ => []

/-- An ordering by columns of an entity. -/
def IsByColumnsOf (entity : Entity) (order : List OrderTerm) : Prop :=
  ∀ term ∈ order, ∃ column descending emptyFirst,
    term = .column column descending emptyFirst ∧ column.source = .ofTable entity.table

section Orderings

variable {entity : Entity} {order : List OrderTerm}

lemma IsByColumnsOf.isByColumns (h : IsByColumnsOf entity order) : IsByColumns order := by
  intro term hterm
  obtain ⟨column, descending, emptyFirst, rfl, -⟩ := h term hterm
  exact ⟨column, descending, emptyFirst, rfl⟩

/-- The keys look at rows of the entity and nowhere else. -/
lemma IsByColumnsOf.source_of_key (h : IsByColumnsOf entity order) {key : SortKey}
    (hkey : key ∈ order.flatMap OrderTerm.keys) : key.place.source = .ofTable entity.table := by
  obtain ⟨term, hterm, hkey⟩ := List.mem_flatMap.mp hkey
  obtain ⟨column, descending, emptyFirst, rfl, hsource⟩ := h term hterm
  obtain rfl := List.mem_singleton.mp hkey
  exact hsource

/-- What succeeds on every item succeeds on all of them. -/
lemma mapM_of_some {α β : Type} {f : α → Option β} {list : List α} (g : α → β)
    (h : ∀ a ∈ list, f a = some (g a)) : list.mapM f = some (list.map g) := by
  induction list with
  | nil => rfl
  | cons a rest ih =>
      rw [List.forall_mem_cons] at h
      rw [List.mapM_cons, h.1, ih h.2]
      rfl

/-- An ordering by columns of an entity makes sense wherever the entity is. -/
lemma sortKeys?_of_columns (h : IsByColumnsOf entity order) {sources : List Source}
    (hsource : Source.ofTable entity.table ∈ sources) (visible : OrderText.Visible)
    (shown : List Shown) :
    sortKeys? visible sources shown order = some (order.flatMap OrderTerm.keys) := by
  have hfilter : order.filter (!·.isEmptyText) = order := by
    refine List.filter_eq_self.mpr fun term hterm => ?_
    obtain ⟨column, descending, emptyFirst, rfl, -⟩ := h term hterm
    rfl
  rw [sortKeys?, hfilter, List.flatMap_def, mapM_of_some OrderTerm.keys fun term hterm => ?_]
  · rfl
  · obtain ⟨column, descending, emptyFirst, rfl, hcolumn⟩ := h term hterm
    have hmem : column.source ∈ sources := hcolumn ▸ hsource
    simp [hmem, OrderTerm.keys]

/-- No limits stand behind an ordering by columns. -/
lemma orderLimits?_of_columns (h : IsByColumnsOf entity order) :
    orderLimits? order = some .absent := by
  let all := (order.filter (!·.isEmptyText)).map OrderTerm.limits
  have habsent : ∀ limits ∈ all, limits = .absent := by
    intro limits hlimits
    obtain ⟨term, hterm, rfl⟩ := List.mem_map.mp hlimits
    obtain ⟨column, descending, emptyFirst, rfl, -⟩ := h term (List.mem_of_mem_filter hterm)
    rfl
  have hlast : all.getLast?.getD .absent = .absent := by
    cases hlast : all.getLast? with
    | none => rfl
    | some last => exact habsent last (List.mem_of_getLast? hlast)
  have hfront : all.dropLast.all (· = .absent) = true :=
    List.all_eq_true.mpr fun limits hlimits =>
      decide_eq_true (habsent limits ((List.dropLast_subset all) hlimits))
  exact (if_pos hfront).trans (congrArg some hlast)

/-- An ordering by columns leaves out no rows. -/
lemma Statement.isWhole_of_columns {statement : Statement} (hlimits : statement.HasNoLimits)
    (h : IsByColumnsOf entity statement.order) : statement.IsWhole :=
  Statement.isWhole_iff.mpr ⟨hlimits, orderLimits?_of_columns h⟩

end Orderings

/-- Next to children an ordering without limits has none. -/
lemma Eager.limits?_of_absent {eager : Eager} {order : List OrderTerm}
    (h : orderLimits? order = some .absent) : eager.limits? order = some .absent := by
  simp [Eager.limits?, h]

/-! ## One parent -/

/-- The record of a row tells it apart from the other rows of its entity. -/
lemma Database.KeysTell.row_eq {database : Database} {entity : Entity}
    (h : database.KeysTell entity) {row other : Row} (hrow : row ∈ database.rows entity.table)
    (hother : other ∈ database.rows entity.table)
    (hsame : recordOf entity row = recordOf entity other) : row = other := by
  refine h.apart row hrow other hother fun column hcolumn => ?_
  have hkeys : Entity.keyOf entity row = Entity.keyOf entity other := congrArg RecordId.key hsame
  rw [← List.map_inj_left.mp hkeys column hcolumn]
  exact h.same row hrow column hcolumn

namespace Eager

/-- The children come from sources that no base has. -/
lemma entering (eager : Eager) :
    Source.Entering eager.holder eager.link eager.source eager.relationship.linkage where
  holder_ne_target := by simp [holder, source, Source.ofTable]
  holder_ne_link := by simp [holder, link, Source.ofTable]
  link_ne_target := by simp [link, source]
  link_table := by
    intro table htable
    simp [link, htable]

/-- The holder is not among the sources that are added. -/
lemma holder_not_mem (eager : Eager) : eager.holder ∉ eager.joins.map Join.target := by
  intro hmem
  obtain ⟨join, hjoin, hsame⟩ := List.mem_map.mp hmem
  rcases target_of_mem_linkageJoins hjoin with htarget | ⟨htarget, -⟩
  · exact eager.entering.holder_ne_target (hsame.symm.trans htarget)
  · exact eager.entering.holder_ne_link (hsame.symm.trans htarget)

variable {database : Database} {eager : Eager} {outer inner : Assignment}

/-- A parent is kept, alone or with a related row. -/
lemma mem_extend (hnone : List.lookup eager.source outer = none)
    (h : inner ∈ eager.extend database outer) :
    inner.row eager.holder = outer.row eager.holder ∧
      (List.lookup eager.source inner = none ∨
        (List.lookup eager.source inner).isSome ∧
          inner.row eager.source ∈ database.rows eager.target.table ∧
          eager.relationship.linkage.Relates database (outer.row eager.holder)
            (inner.row eager.source)) := by
  unfold extend at h
  simp only at h
  split at h
  · obtain rfl := List.mem_singleton.mp h
    exact ⟨rfl, Or.inl hnone⟩
  · obtain ⟨_, hmem, hagree, hsome, hrow, hrel⟩ :=
      relates_of_mem_linkageJoins eager.entering h
    obtain rfl := List.mem_singleton.mp hmem
    exact ⟨hagree.row eager.holder_not_mem, Or.inr ⟨hsome, hrow, hrel⟩⟩

/-- Every related row is there. -/
lemma exists_mem_extend {row : Row} (hrow : row ∈ database.rows eager.target.table)
    (hrel : eager.relationship.linkage.Relates database (outer.row eager.holder) row) :
    ∃ inner ∈ eager.extend database outer, inner.row eager.holder = outer.row eager.holder ∧
      (List.lookup eager.source inner).isSome ∧ inner.row eager.source = row := by
  obtain ⟨inner, hinner, hsame, hagree⟩ := exists_mem_linkageJoins eager.entering
    (List.mem_singleton_self outer) hrow hrel
  obtain ⟨_, _, _, hsome, -⟩ := relates_of_mem_linkageJoins eager.entering hinner
  refine ⟨inner, ?_, hagree.row eager.holder_not_mem, hsome, hsame⟩
  unfold extend
  simp only
  rw [if_neg]
  · exact hinner
  · rw [List.isEmpty_iff]
    exact List.ne_nil_of_mem hinner

/-- Every parent is there. -/
lemma extend_ne_nil (database : Database) (eager : Eager) (outer : Assignment) :
    eager.extend database outer ≠ [] := by
  unfold extend
  simp only
  split
  · exact List.cons_ne_nil _ _
  · rename_i hsome
    rwa [List.isEmpty_iff] at hsome

end Eager

/-! ## All parents -/

namespace Statement

/-- Whatever is shown is shown besides the columns of the ordering. -/
lemma places_subset_orderShown (statement : Statement) (shown : List Shown) :
    shown.map Shown.place ⊆ (statement.orderShown shown).map Shown.place := by
  rw [orderShown]
  induction statement.order generalizing shown with
  | nil => exact List.Subset.refl _
  | cons term rest ih =>
      rw [List.foldl_cons]
      cases term with
      | column ref descending emptyFirst =>
          exact List.Subset.trans (Shown.places_add true shown ref.place).1 (ih _)
      | text raw => exact ih shown
      | null => exact ih shown
      | flag truth => exact ih shown

variable {database : Database} {statement : Statement} {entity : Entity}

/-- Assignments that show the same cells have the same row of an entity that is shown. -/
lemma row_eq_of_shown (hover : statement.Over entity) (hkeys : database.KeysTell entity)
    (hshown : .entity entity (.ofTable entity.table) ∈ statement.selected) {shown : List Shown}
    (hsub : statement.shown.map Shown.place ⊆ shown.map Shown.place) {a b : Assignment}
    (ha : a ∈ statement.scope database) (hb : b ∈ statement.scope database)
    (h : (shown.map fun column => a.cell column.place) =
      shown.map fun column => b.cell column.place) :
    a.row (.ofTable entity.table) = b.row (.ofTable entity.table) := by
  refine hkeys.row_eq (row_mem_of_mem_candidates (List.mem_filter.mp ha).1 hover.occurs)
    (row_mem_of_mem_candidates (List.mem_filter.mp hb).1 hover.occurs) ?_
  have hitem : Selected.item a (.entity entity (.ofTable entity.table)) =
      Selected.item b (.entity entity (.ofTable entity.table)) := by
    refine Selected.item_congr fun place hplace => ?_
    obtain ⟨column, hcolumn, rfl⟩ :=
      List.mem_map.mp (hsub (places_subset_shown hshown hplace))
    exact List.map_inj_left.mp h column hcolumn
  simpa [Selected.item] using hitem

/-- A whole statement leaves out no row of an entity that it shows, whatever it shows besides. -/
lemma exists_row_of_arranged (hover : statement.Over entity) (hkeys : database.KeysTell entity)
    (hwhole : statement.IsWhole) (hshown : .entity entity (.ofTable entity.table) ∈ statement.selected)
    {names : Naming} {inSubquery : Bool} {shown : List Shown} {found : List Assignment}
    (hsub : statement.shown.map Shown.place ⊆ shown.map Shown.place)
    (h : statement.arranged? database names inSubquery shown = some found) {a : Assignment}
    (ha : a ∈ statement.scope database) :
    ∃ b ∈ found, b.row (.ofTable entity.table) = a.row (.ofTable entity.table) := by
  obtain ⟨b, hb, hsame⟩ := exists_mem_arranged hwhole h ha
  exact ⟨b, hb, row_eq_of_shown hover hkeys hshown hsub (mem_scope_of_arranged h hb) ha hsame⟩

/-- **All parents.**  What is loaded is sorted, and made of the parents that the statement selects
with all their children. -/
theorem loaded?_eq_some {eager : Eager} (hover : statement.Over eager.parent)
    (hkeys : database.KeysTell eager.parent) (hwhole : statement.IsWhole)
    (hshown : .entity eager.parent eager.holder ∈ statement.selected)
    (horder : IsByColumnsOf eager.parent statement.order) (names : Naming) :
    ∃ kept : List Assignment, statement.loaded? database names eager =
        some (sortBy (statement.order.flatMap OrderTerm.keys ++ eager.sortKeys)
          (kept.flatMap (eager.extend database))) ∧
      (∀ a ∈ kept, a ∈ statement.scope database) ∧
      ∀ a ∈ statement.scope database, ∃ b ∈ kept, b.row eager.holder = a.row eager.holder := by
  have hsource : ∀ more : List Source,
      Source.ofTable eager.parent.table ∈ statement.sources ++ more :=
    fun more => List.mem_append_left _ hover.occurs
  have hbeside : eager.limits? statement.order = some .absent :=
    Eager.limits?_of_absent (isWhole_iff.mp hwhole).2
  rw [loaded?, hbeside]
  cases hlimited : statement.isLimited with
  | false =>
      refine ⟨statement.scope database, ?_, fun _ h => h, fun a ha => ⟨a, ha, rfl⟩⟩
      simp only [Bool.false_eq_true, if_false, sortKeys?_of_columns horder (hsource _)]
      rfl
  | true =>
      let inner := statement.orderShown statement.shown
      obtain ⟨kept, harranged⟩ : ∃ kept, statement.arranged? database names true inner = some kept := by
        exact ⟨_, arranged?_eq_some.mpr
          ⟨_, hwhole, _, sortKeys?_of_columns horder hover.occurs _ _, rfl⟩⟩
      refine ⟨kept, ?_, fun a => mem_scope_of_arranged harranged, fun a ha =>
        exists_row_of_arranged hover hkeys hwhole hshown
          (places_subset_orderShown statement statement.shown) harranged ha⟩
      simp only [if_true]
      rw [harranged]
      simp only [sortKeys?_of_columns horder (hsource _)]
      rfl

end Statement

end Sql

end FilterQuery
