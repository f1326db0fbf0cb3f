import Mathlib.Data.List.Nodup
import Mathlib.Tactic.Common
import FilterQuery.Proofs.Loading

/-!
# Parents with their children

What is loaded is one list of parents next to children; families are read off it.  The list may
have a parent many times, even in several places, because the base may have it so and because rows
may tie; a family has it once.

**The result.**  `IsListing` says what families should be: every selected parent once, in order, each
with exactly its related rows, once and in order.  `Lists` says so without the order.

**Reading it off.**  `Loads` is what is in the list that is loaded, and `isListing_of_loads` is the
step from one to the other: a sublist of a sorted list is sorted, and among the children of one
parent only the declared order of children decides.

**Statements.**  `Statement.families_eq`: the families of a statement are such a listing.
-/

namespace FilterQuery

open FilterQuery.Sql

namespace Sql

/-! ## The result -/

section Listing

variable (database : Database) (eager : Eager)

/-- Rows of a holder with rows of a target: the parents that are asked for, each once and in order,
and with each of them its related rows, once and in order. -/
structure IsListing (keys : List SortKey) (isParent : Row → Prop)
    (listing : List (Row × List Row)) : Prop where
  parents : ∀ row, row ∈ listing.map Prod.fst ↔ isParent row
  parents_nodup : (listing.map Prod.fst).Nodup
  parents_ordered : (listing.map Prod.fst).Pairwise fun a b =>
    SortKey.orderAll keys [(eager.holder, a)] [(eager.holder, b)] ≠ .gt
  children : ∀ family ∈ listing, ∀ row, row ∈ family.2 ↔
    row ∈ database.rows eager.target.table ∧
      eager.relationship.linkage.Relates database family.1 row
  children_nodup : ∀ family ∈ listing, family.2.Nodup
  children_ordered : ∀ family ∈ listing, family.2.Pairwise fun a b =>
    SortKey.orderAll eager.sortKeys [(eager.source, a)] [(eager.source, b)] ≠ .gt

/-- Rows of a holder with rows of a target: the parents that are asked for, each once, and with each
of them its related rows, each once. -/
structure Lists (isParent : Row → Prop) (listing : List (Row × List Row)) : Prop where
  parents : ∀ row, row ∈ listing.map Prod.fst ↔ isParent row
  parents_nodup : (listing.map Prod.fst).Nodup
  children : ∀ family ∈ listing, ∀ row, row ∈ family.2 ↔
    row ∈ database.rows eager.target.table ∧
      eager.relationship.linkage.Relates database family.1 row
  children_nodup : ∀ family ∈ listing, family.2.Nodup

/-- A list of parents, each alone or next to a child, in which no child is missing. -/
structure Loads (isParent : Row → Prop) (loaded : List Assignment) : Prop where
  parent : ∀ a ∈ loaded, a.row eager.holder ∈ database.rows eager.parent.table ∧
    isParent (a.row eager.holder)
  child : ∀ a ∈ loaded, List.lookup eager.source a = none ∨
    (List.lookup eager.source a).isSome ∧ a.row eager.source ∈ database.rows eager.target.table ∧
      eager.relationship.linkage.Relates database (a.row eager.holder) (a.row eager.source)
  parents : ∀ row, isParent row → ∃ a ∈ loaded, a.row eager.holder = row
  children : ∀ row, isParent row → ∀ other ∈ database.rows eager.target.table,
    eager.relationship.linkage.Relates database row other → ∃ a ∈ loaded,
      a.row eager.holder = row ∧ (List.lookup eager.source a).isSome ∧
        a.row eager.source = other

end Listing

/-! ## Reading it off -/

section Firsts

variable {α β κ : Type} [BEq κ]

/-- The first of each kind, where the kind is that of something made of each item. -/
lemma firstsBy_map (mark : β → κ) (f : α → β) (items : List α) :
    firstsBy mark (items.map f) = (firstsBy (fun a => mark (f a)) items).map f := by
  have hfrom : ∀ known : List α, (items.map f).foldl (fun known item =>
        if known.any fun other => mark other == mark item then known else known ++ [item])
        (known.map f) =
      (items.foldl (fun known item =>
        if known.any fun other => mark (f other) == mark (f item) then known
        else known ++ [item]) known).map f := by
    induction items with
    | nil => exact fun known => rfl
    | cons item rest ih =>
        intro known
        rw [List.map_cons, List.foldl_cons, List.foldl_cons, ← ih]
        congr 1
        have hany : ((known.map f).any fun other => mark other == mark (f item)) =
            known.any fun other => mark (f other) == mark (f item) := by
          rw [List.any_map]
          rfl
        rw [hany]
        split
        · rfl
        · rw [List.map_append, List.map_singleton]
  exact hfrom []

/-- Kinds count only as far as they tell items apart. -/
lemma firstsBy_congr {κ' : Type} [BEq κ'] {mark : α → κ} {mark' : α → κ'} (items : List α)
    (h : ∀ a b, (mark a == mark b) = (mark' a == mark' b)) :
    firstsBy mark items = firstsBy mark' items := by
  simp only [firstsBy, h]

variable [LawfulBEq κ] {mark : α → κ} {items : List α}

/-- Where the kinds tell items apart, every item stays. -/
lemma mem_firstsBy (hmark : ∀ a ∈ items, ∀ b ∈ items, mark a = mark b → a = b) {a : α} :
    a ∈ firstsBy mark items ↔ a ∈ items := by
  constructor
  · exact fun h => firstsBy_sublist.subset h
  · intro h
    obtain ⟨b, hb, hsame⟩ := exists_mem_firstsBy mark h
    obtain rfl := hmark b (firstsBy_sublist.subset hb) a h hsame
    exact hb

/-- Nothing stays twice. -/
lemma firstsBy_nodup (mark : α → κ) (items : List α) : (firstsBy mark items).Nodup :=
  List.Nodup.of_map mark nodup_firstsBy

end Firsts

/-- The rows of the parents in what is loaded. -/
def holderRows (eager : Eager) (loaded : List Assignment) : List Row :=
  loaded.map fun assignment => assignment.row eager.holder

/-- The rows that stand next to a parent in what is loaded. -/
def childRows (eager : Eager) (loaded : List Assignment) (parent : Row) : List Row :=
  (loaded.filter fun assignment =>
    recordOf eager.parent (Assignment.row assignment eager.holder) == recordOf eager.parent parent
      && (List.lookup eager.source assignment).isSome).map fun assignment =>
    Assignment.row assignment eager.source

/-- The rows of the parents in what is loaded, each with the rows of its children. -/
def listingOf (eager : Eager) (loaded : List Assignment) : List (Row × List Row) :=
  (firstsBy (recordOf eager.parent) (holderRows eager loaded)).map fun parent =>
    (parent, firstsBy (recordOf eager.target) (childRows eager loaded parent))

/-- Families are made of records where the listing has rows. -/
lemma familiesOf_eq {statement : Statement} {eager : Eager} (loaded : List Assignment)
    (hfirst : statement.selected.head? = some (.entity eager.parent eager.holder)) :
    familiesOf statement eager loaded = (listingOf eager loaded).map fun family =>
      ⟨.record (recordOf eager.parent family.1), family.2.map (recordOf eager.target)⟩ := by
  let head (row : Row) : Item × RecordId :=
    (.record (recordOf eager.parent row), recordOf eager.parent row)
  have hheads : (loaded.filterMap fun assignment =>
      statement.selected.head?.map fun selected =>
        (selected.item assignment, recordOf eager.parent (assignment.row eager.holder))) =
      (holderRows eager loaded).map head := by
    simp only [hfirst, Option.map_some, List.filterMap_eq_map', holderRows, List.map_map]
    rfl
  have hparents : firstsBy Prod.fst ((holderRows eager loaded).map head) =
      (firstsBy (recordOf eager.parent) (holderRows eager loaded)).map head := by
    rw [firstsBy_map]
    congr 1
    refine firstsBy_congr _ fun a b => ?_
    rw [Bool.eq_iff_iff, beq_iff_eq, beq_iff_eq, Item.record.injEq]
  have hchildren : ∀ rows : List Row, unique (rows.map (recordOf eager.target)) =
      (firstsBy (recordOf eager.target) rows).map (recordOf eager.target) := by
    intro rows
    rw [unique_eq_firstsBy, firstsBy_map]
    rfl
  calc familiesOf statement eager loaded
      = (firstsBy Prod.fst ((holderRows eager loaded).map head)).map fun parent =>
          ⟨parent.1, unique ((loaded.filter fun assignment =>
              recordOf eager.parent (Assignment.row assignment eager.holder) == parent.2
                && (List.lookup eager.source assignment).isSome).map fun assignment =>
            recordOf eager.target (Assignment.row assignment eager.source))⟩ := by
        rw [← hheads]
        rfl
    _ = _ := by
        rw [hparents, listingOf, List.map_map, List.map_map]
        refine List.map_congr_left fun parent _ => ?_
        simp only [Function.comp_apply, childRows, ← hchildren, List.map_map]
        rfl

section Reading

variable {database : Database} {eager : Eager} {keys : List SortKey} {isParent : Row → Prop}
  {loaded : List Assignment}

/-- What keys see of a row does not depend on the assignment that has it. -/
lemma orderAll_rows {source : Source} (hkeys : ∀ key ∈ keys, key.place.source = source)
    (a b : Assignment) :
    SortKey.orderAll keys [(source, a.row source)] [(source, b.row source)] =
      SortKey.orderAll keys a b := by
  have hcell : ∀ c : Assignment, ∀ key ∈ keys,
      Assignment.cell [(source, c.row source)] key.place = c.cell key.place := by
    intro c key hkey
    rw [Assignment.cell, Assignment.cell, hkeys key hkey, Assignment.row_cons_self]
  exact SortKey.orderAll_congr (hcell a) (hcell b)

/-- The keys of the children look at the children. -/
lemma Eager.source_of_sortKey {key : SortKey} (h : key ∈ eager.sortKeys) :
    key.place.source = eager.source := by
  obtain ⟨⟨ref, isDescending⟩, hmem, rfl⟩ := List.mem_map.mp h
  obtain ⟨⟨name, direction⟩, -, hcolumn⟩ := List.mem_filterMap.mp hmem
  obtain ⟨column, -, heq⟩ := Option.map_eq_some_iff.mp hcolumn
  obtain ⟨rfl, rfl⟩ := Prod.mk.inj heq
  rfl

/-- The rows of the parents that are loaded are those that are asked for. -/
lemma Loads.mem_holderRows (h : Loads database eager isParent loaded) {row : Row} :
    row ∈ holderRows eager loaded ↔ isParent row := by
  constructor
  · intro hrow
    obtain ⟨a, ha, rfl⟩ := List.mem_map.mp hrow
    exact (h.parent a ha).2
  · intro hrow
    obtain ⟨a, ha, rfl⟩ := h.parents row hrow
    exact List.mem_map.mpr ⟨a, ha, rfl⟩

/-- What stands next to a parent has the row of that parent. -/
lemma Loads.row_eq_of_mem_filter (h : Loads database eager isParent loaded)
    (hkeys : database.KeysTell eager.parent) {parent : Row}
    (hparent : parent ∈ database.rows eager.parent.table) {a : Assignment}
    (ha : a ∈ loaded.filter fun assignment =>
      recordOf eager.parent (Assignment.row assignment eager.holder) ==
          recordOf eager.parent parent
        && (List.lookup eager.source assignment).isSome) :
    a ∈ loaded ∧ a.row eager.holder = parent ∧ (List.lookup eager.source a).isSome := by
  obtain ⟨ha, hsame⟩ := List.mem_filter.mp ha
  rw [Bool.and_eq_true, beq_iff_eq] at hsame
  exact ⟨ha, hkeys.row_eq (h.parent a ha).1 hparent hsame.1, hsame.2⟩

/-- The rows next to a parent are its related rows. -/
lemma Loads.mem_childRows (h : Loads database eager isParent loaded)
    (hkeys : database.KeysTell eager.parent) {parent : Row}
    (hparent : parent ∈ database.rows eager.parent.table) (hasked : isParent parent) {row : Row} :
    row ∈ childRows eager loaded parent ↔ row ∈ database.rows eager.target.table ∧
      eager.relationship.linkage.Relates database parent row := by
  constructor
  · intro hrow
    obtain ⟨a, ha, rfl⟩ := List.mem_map.mp hrow
    obtain ⟨hmem, rfl, hsome⟩ := h.row_eq_of_mem_filter hkeys hparent ha
    rcases h.child a hmem with hnone | ⟨-, hchild⟩
    · rw [hnone] at hsome
      cases hsome
    · exact hchild
  · rintro ⟨hrow, hrel⟩
    obtain ⟨a, ha, rfl, hsome, rfl⟩ := h.children parent hasked row hrow hrel
    refine List.mem_map.mpr ⟨a, List.mem_filter.mpr ⟨ha, ?_⟩, rfl⟩
    rw [Bool.and_eq_true, beq_iff_eq]
    exact ⟨rfl, hsome⟩

/-- The parents are in their order, which the order of the related rows only refines. -/
lemma holderRows_ordered (hholder : ∀ key ∈ keys, key.place.source = eager.holder)
    (hsorted : loaded.Pairwise fun a b => SortKey.orderAll (keys ++ eager.sortKeys) a b ≠ .gt) :
    (holderRows eager loaded).Pairwise fun a b =>
      SortKey.orderAll keys [(eager.holder, a)] [(eager.holder, b)] ≠ .gt := by
  rw [holderRows, List.pairwise_map]
  refine hsorted.imp fun {a b} hle => ?_
  rw [orderAll_rows hholder]
  rw [SortKey.orderAll_append] at hle
  intro hgt
  rw [hgt] at hle
  exact hle rfl

/-- The rows next to a parent are in the declared order: the ordering of the parents ties among
them. -/
lemma Loads.childRows_ordered (h : Loads database eager isParent loaded)
    (hkeys : database.KeysTell eager.parent) (hstored : database.IsStored)
    (hholder : ∀ key ∈ keys, key.place.source = eager.holder)
    (hsorted : loaded.Pairwise fun a b => SortKey.orderAll (keys ++ eager.sortKeys) a b ≠ .gt)
    {parent : Row} (hparent : parent ∈ database.rows eager.parent.table) :
    (childRows eager loaded parent).Pairwise fun a b =>
      SortKey.orderAll eager.sortKeys [(eager.source, a)] [(eager.source, b)] ≠ .gt := by
  rw [childRows, List.pairwise_map]
  refine (hsorted.sublist List.filter_sublist).imp_of_mem fun {a b} ha hb hle => ?_
  obtain ⟨-, hrow, -⟩ := h.row_eq_of_mem_filter hkeys hparent ha
  obtain ⟨-, hrow', -⟩ := h.row_eq_of_mem_filter hkeys hparent hb
  have htie : SortKey.orderAll keys a b = .eq := by
    rw [← orderAll_rows hholder, hrow, hrow']
    refine SortKey.orderAll_self fun key hkey => ?_
    rw [Assignment.cell, hholder key hkey, Assignment.row_cons_self]
    exact hstored.cell hparent _
  rw [SortKey.orderAll_append, htie] at hle
  rw [orderAll_rows fun key => Eager.source_of_sortKey]
  exact hle

/-- The parents of a listing are the first rows of the holder. -/
lemma fst_listingOf (eager : Eager) (loaded : List Assignment) :
    (listingOf eager loaded).map Prod.fst =
      firstsBy (recordOf eager.parent) (holderRows eager loaded) := by
  rw [listingOf, List.map_map]
  exact List.map_id _

/-- Among the rows of the parents, records tell rows apart. -/
lemma Loads.mem_firsts (h : Loads database eager isParent loaded)
    (hkeys : database.KeysTell eager.parent) {row : Row} :
    row ∈ firstsBy (recordOf eager.parent) (holderRows eager loaded) ↔
      row ∈ holderRows eager loaded := by
  have hparent : ∀ row ∈ holderRows eager loaded, row ∈ database.rows eager.parent.table := by
    intro row hrow
    obtain ⟨a, ha, rfl⟩ := List.mem_map.mp hrow
    exact (h.parent a ha).1
  exact mem_firstsBy fun a ha b hb => hkeys.row_eq (hparent a ha) (hparent b hb)

/-- A family of a listing. -/
lemma Loads.family (h : Loads database eager isParent loaded)
    (hkeys : database.KeysTell eager.parent) {family : Row × List Row}
    (hmem : family ∈ listingOf eager loaded) :
    family.1 ∈ database.rows eager.parent.table ∧ isParent family.1 ∧
      family.2 = firstsBy (recordOf eager.target) (childRows eager loaded family.1) := by
  obtain ⟨row, hrow, rfl⟩ := List.mem_map.mp hmem
  have hholder := (h.mem_firsts hkeys).mp hrow
  obtain ⟨a, ha, rfl⟩ := List.mem_map.mp hholder
  exact ⟨(h.parent a ha).1, h.mem_holderRows.mp hholder, rfl⟩

/-- **Reading it off.**  What is read off is as it should be, in whatever order it is loaded. -/
theorem lists_of_loads (h : Loads database eager isParent loaded)
    (hkeys : database.KeysTell eager.parent) (hkeys' : database.KeysTell eager.target) :
    Lists database eager isParent (listingOf eager loaded) := by
  constructor
  · intro row
    rw [fst_listingOf, h.mem_firsts hkeys, h.mem_holderRows]
  · rw [fst_listingOf]
    exact firstsBy_nodup _ _
  · intro family hmem row
    obtain ⟨hrow, hasked, hchildren⟩ := h.family hkeys hmem
    have hchild : ∀ other ∈ childRows eager loaded family.1,
        other ∈ database.rows eager.target.table :=
      fun other hother => ((h.mem_childRows hkeys hrow hasked).mp hother).1
    rw [hchildren, mem_firstsBy fun a ha b hb => hkeys'.row_eq (hchild a ha) (hchild b hb),
      h.mem_childRows hkeys hrow hasked]
  · intro family hmem
    obtain ⟨-, -, hchildren⟩ := h.family hkeys hmem
    rw [hchildren]
    exact firstsBy_nodup _ _

/-- What is read off a sorted list is in order, too. -/
theorem isListing_of_loads (h : Loads database eager isParent loaded)
    (hkeys : database.KeysTell eager.parent) (hkeys' : database.KeysTell eager.target)
    (hstored : database.IsStored) (hholder : ∀ key ∈ keys, key.place.source = eager.holder)
    (hsorted : loaded.Pairwise fun a b => SortKey.orderAll (keys ++ eager.sortKeys) a b ≠ .gt) :
    IsListing database eager keys isParent (listingOf eager loaded) := by
  have hlists := lists_of_loads h hkeys hkeys'
  refine ⟨hlists.parents, hlists.parents_nodup, ?_, hlists.children, hlists.children_nodup, ?_⟩
  · rw [fst_listingOf]
    exact (holderRows_ordered hholder hsorted).sublist firstsBy_sublist
  · intro family hmem
    obtain ⟨hrow, -, hchildren⟩ := h.family hkeys hmem
    rw [hchildren]
    exact (h.childRows_ordered hkeys hstored hholder hsorted hrow).sublist firstsBy_sublist

/-- Whatever is in order is a listing in any order. -/
lemma IsListing.lists {listing : List (Row × List Row)}
    (h : IsListing database eager keys isParent listing) : Lists database eager isParent listing :=
  ⟨h.parents, h.parents_nodup, h.children, h.children_nodup⟩

end Reading

/-! ## Statements -/

namespace Statement

variable {database : Database} {statement : Statement} {eager : Eager}

/-- A row is one of those that a statement selects for the holder. -/
def HasParent (database : Database) (statement : Statement) (eager : Eager) (row : Row) : Prop :=
  ∃ a ∈ statement.scope database, a.row eager.holder = row

/-- What is loaded for some of the assignments that a statement selects. -/
lemma loads_of_kept (hover : statement.Over eager.parent) (hapart : eager.source ∉ statement.sources)
    {kept loaded : List Assignment} (hkept : ∀ a ∈ kept, a ∈ statement.scope database)
    (hloaded : loaded.Perm (kept.flatMap (eager.extend database))) :
    Loads database eager (fun row => ∃ a ∈ kept, a.row eager.holder = row) loaded := by
  have hmem : ∀ a, a ∈ loaded ↔ ∃ outer ∈ kept, a ∈ eager.extend database outer :=
    fun a => hloaded.mem_iff.trans List.mem_flatMap
  have hnone : ∀ outer ∈ kept, List.lookup eager.source outer = none := fun outer houter =>
    lookup_eq_none_of_mem_candidates (List.mem_filter.mp (hkept outer houter)).1 hapart
  constructor
  · intro a ha
    obtain ⟨outer, houter, hextend⟩ := (hmem a).mp ha
    obtain ⟨hrow, -⟩ := Eager.mem_extend (hnone outer houter) hextend
    refine ⟨?_, outer, houter, hrow.symm⟩
    rw [hrow]
    exact row_mem_of_mem_candidates (List.mem_filter.mp (hkept outer houter)).1 hover.occurs
  · intro a ha
    obtain ⟨outer, houter, hextend⟩ := (hmem a).mp ha
    obtain ⟨hrow, hchild⟩ := Eager.mem_extend (hnone outer houter) hextend
    rw [hrow]
    exact hchild
  · rintro _ ⟨outer, houter, rfl⟩
    obtain ⟨inner, hinner⟩ :=
      List.exists_mem_of_ne_nil _ (Eager.extend_ne_nil database eager outer)
    exact ⟨inner, (hmem inner).mpr ⟨outer, houter, hinner⟩,
      (Eager.mem_extend (hnone outer houter) hinner).1⟩
  · rintro _ ⟨outer, houter, rfl⟩ other hother hrel
    obtain ⟨inner, hinner, hsame, hsome, hchild⟩ := Eager.exists_mem_extend hother hrel
    exact ⟨inner, (hmem inner).mpr ⟨outer, houter, hinner⟩, hsame, hsome, hchild⟩

/-- What is loaded for the parents that a statement selects. -/
lemma loads_of_scope (hover : statement.Over eager.parent) (hapart : eager.source ∉ statement.sources)
    {kept loaded : List Assignment} (hkept : ∀ a ∈ kept, a ∈ statement.scope database)
    (hall : ∀ a ∈ statement.scope database, ∃ b ∈ kept, b.row eager.holder = a.row eager.holder)
    (hloaded : loaded.Perm (kept.flatMap (eager.extend database))) :
    Loads database eager (statement.HasParent database eager) loaded := by
  have hsame : statement.HasParent database eager =
      fun row => ∃ a ∈ kept, a.row eager.holder = row := by
    funext row
    refine propext ⟨?_, fun ⟨a, ha, hrow⟩ => ⟨a, hkept a ha, hrow⟩⟩
    rintro ⟨a, ha, rfl⟩
    exact hall a ha
  rw [hsame]
  exact loads_of_kept hover hapart hkept hloaded

/-- **Statements.**  The families of a statement are as they should be, unless its parameters do not
reach the database. -/
theorem families_eq (hover : statement.Over eager.parent)
    (hkeys : database.KeysTell eager.parent) (hkeys' : database.KeysTell eager.target)
    (hstored : database.IsStored) (hwhole : statement.IsWhole)
    (hfirst : statement.selected.head? = some (.entity eager.parent eager.holder))
    (horder : IsByColumnsOf eager.parent statement.order)
    (hapart : eager.source ∉ statement.sources) :
    ∃ listing, statement.families database eager =
        withParameters (misreading statement.order) (Query.rows statement).written.parameters
          (some (listing.map fun family =>
            ⟨.record (recordOf eager.parent family.1), family.2.map (recordOf eager.target)⟩)) ∧
      IsListing database eager (statement.order.flatMap OrderTerm.keys)
        (statement.HasParent database eager) listing := by
  obtain ⟨kept, hloaded, hkept, hall⟩ := loaded?_eq_some hover hkeys hwhole
    (List.mem_of_mem_head? hfirst) horder (Query.rows statement).written.names
  let keys := statement.order.flatMap OrderTerm.keys ++ eager.sortKeys
  let loaded := sortBy keys (kept.flatMap (eager.extend database))
  have hloads : Loads database eager (statement.HasParent database eager) loaded :=
    loads_of_scope hover hapart hkept hall (sortBy_perm _ _)
  have hcells : ∀ a ∈ kept.flatMap (eager.extend database), ∀ key ∈ keys,
      (Assignment.cell a key.place).IsStored := by
    intro a ha key hkey
    have hmem : a ∈ loaded := (sortBy_perm _ _).mem_iff.mpr ha
    rw [Assignment.cell]
    rcases List.mem_append.mp hkey with hkey | hkey
    · rw [horder.source_of_key hkey]
      exact hstored.cell (hloads.parent a hmem).1 _
    · rw [Eager.source_of_sortKey hkey]
      rcases hloads.child a hmem with hnone | ⟨-, hrow, -⟩
      · rw [Assignment.row, hnone]
        trivial
      · exact hstored.cell hrow _
  refine ⟨listingOf eager loaded, ?_, isListing_of_loads hloads hkeys hkeys' hstored
    (fun key hkey => horder.source_of_key hkey) (sortBy_pairwise hcells)⟩
  rw [families, hloaded, Option.map_some, familiesOf_eq _ hfirst]

end Statement

end Sql

end FilterQuery
