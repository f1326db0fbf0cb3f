import Mathlib.Tactic.Common
import FilterQuery.Sql.Result

/-!
# Rows that are joined

A selection is read against assignments of rows to sources, and joins make longer assignments out
of shorter ones.  This file says what they make, in three groups.

**Looking rows up.**  `Assignment.row` finds the row that was added last for a source and is blind
to all others (`row_cons_self`, `row_cons_of_ne`).  `Assignment.AgreesOff` is the frame condition
that every later file uses: two assignments have the same rows, a few new sources apart.

**One join.**  `mem_join` names the rows that one join adds.

**A relationship.**  `Linkage.Relates` is when two rows are related, said without joins and without
aliases.  `relates_of_mem_linkageJoins` and `exists_mem_linkageJoins` say that joining along a
relationship adds exactly the related rows, whether or not a table of pairs stands between.
-/

namespace FilterQuery.Sql

/-! ## Looking rows up -/

namespace Assignment

/-- The row that was added last is found. -/
@[simp]
lemma row_cons_self (assignment : Assignment) (source : Source) (found : Row) :
    Assignment.row ((source, found) :: assignment) source = found := by
  simp [Assignment.row]

/-- A row that is added for one source is not seen from another. -/
lemma row_cons_of_ne (assignment : Assignment) {source other : Source} (added : Row)
    (h : other ≠ source) :
    Assignment.row ((source, added) :: assignment) other = assignment.row other := by
  simp [Assignment.row, List.lookup_cons, beq_false_of_ne h]

/-- The cells of two places are equal exactly if the cells of their rows are. -/
lemma agrees_iff (assignment : Assignment) (equalities : List (Place × Place)) :
    assignment.agrees equalities = true ↔
      ∀ pair ∈ equalities, ((assignment.row pair.1.source).cell pair.1.name).equal?
        ((assignment.row pair.2.source).cell pair.2.name) = some true := by
  simp [agrees, cell]

/-- What equal columns of two sources ask of the two rows. -/
lemma agrees_equate (assignment : Assignment) (left right : Source)
    (pairs : List (String × String)) :
    assignment.agrees (equate left right pairs) = true ↔
      ∀ pair ∈ pairs, ((assignment.row left).cell pair.1).equal?
        ((assignment.row right).cell pair.2) = some true := by
  rw [agrees_iff]
  simp only [equate, List.forall_mem_map]

/-- Two assignments find the same for every source but the new ones. -/
def AgreesOff (new : List Source) (before after : Assignment) : Prop :=
  ∀ source, source ∉ new → List.lookup source after = List.lookup source before

namespace AgreesOff

variable {new : List Source} {a b : Assignment}

lemma refl (new : List Source) (a : Assignment) : AgreesOff new a a :=
  fun _ _ => rfl

lemma row (h : AgreesOff new a b) {source : Source} (hs : source ∉ new) :
    b.row source = a.row source := by
  rw [Assignment.row, h source hs, Assignment.row]

/-- Adding a row for a new source changes nothing else. -/
lemma cons (h : AgreesOff new a b) {source : Source} (hs : source ∈ new) (added : Row) :
    AgreesOff new a ((source, added) :: b) := by
  intro other ho
  have hne : other ≠ source := fun e => ho (e ▸ hs)
  rw [List.lookup_cons, beq_false_of_ne hne]
  exact h other ho

end AgreesOff

end Assignment

/-! ## One join -/

lemma mem_extend (database : Database) (assignments : List Assignment) (source : Source)
    (inner : Assignment) :
    inner ∈ database.extend assignments source ↔
      ∃ outer ∈ assignments, ∃ row ∈ database.rows source.table,
        inner = (source, row) :: outer := by
  simp [Database.extend, eq_comm]

/-- What one join adds: a row of its table that agrees with the rows there are. -/
lemma mem_join (database : Database) (assignments : List Assignment) (join : Join)
    (inner : Assignment) :
    inner ∈ database.join assignments join ↔
      ∃ outer ∈ assignments, ∃ row ∈ database.rows join.target.table,
        inner = (join.target, row) :: outer ∧ inner.agrees join.equalities = true := by
  simp only [Database.join, List.mem_filter, mem_extend]
  constructor
  · rintro ⟨⟨outer, ho, row, hr, rfl⟩, hagree⟩
    exact ⟨outer, ho, row, hr, rfl, hagree⟩
  · rintro ⟨outer, ho, row, hr, rfl, hagree⟩
    exact ⟨⟨outer, ho, row, hr, rfl⟩, hagree⟩

end FilterQuery.Sql

namespace FilterQuery

open FilterQuery.Sql

/-! ## Relationships

A relationship is entered by one join or by two.  Which of them it is, and on which side the
referring columns are, does not matter to those who only ask whether two rows are related.
-/

/-- Two rows are related: the cells of each pair of columns are equal, over some row of the table of
pairs where there is one. -/
def Linkage.Relates (database : Database) (holder target : Row) : Linkage → Prop
  | .refersTo pairs =>
    ∀ pair ∈ pairs, (target.cell pair.1).equal? (holder.cell pair.2) = some true
  | .referredBy pairs =>
    ∀ pair ∈ pairs, (holder.cell pair.1).equal? (target.cell pair.2) = some true
  | .through table holderPairs targetPairs =>
    ∃ link ∈ database.rows table,
      (∀ pair ∈ holderPairs, (holder.cell pair.1).equal? (link.cell pair.2) = some true) ∧
      ∀ pair ∈ targetPairs, (target.cell pair.1).equal? (link.cell pair.2) = some true

/-- Whether two rows are related can be computed. -/
instance (database : Database) (holder target : Row) (linkage : Linkage) :
    Decidable (linkage.Relates database holder target) :=
  match linkage with
  | .refersTo pairs => inferInstanceAs (Decidable (∀ pair ∈ pairs, _ = _))
  | .referredBy pairs => inferInstanceAs (Decidable (∀ pair ∈ pairs, _ = _))
  | .through table _ _ =>
    inferInstanceAs (Decidable (∃ link ∈ database.rows table, (∀ pair ∈ _, _ = _) ∧
      ∀ pair ∈ _, _ = _))

/-- The sources that joining along a relationship adds are new, and apart from each other. -/
structure Sql.Source.Entering (holder link target : Source) (linkage : Linkage) : Prop where
  holder_ne_target : holder ≠ target
  holder_ne_link : holder ≠ link
  link_ne_target : link ≠ target
  link_table : ∀ table, linkTable? linkage = some table → link.table = table

section Entering

variable {database : Database} {holder link target : Source} {linkage : Linkage}
  {assignments : List Assignment}

/-- Joining along a relationship joins its target, and a table of pairs where there is one. -/
lemma target_of_mem_linkageJoins {join : Join}
    (h : join ∈ linkageJoins linkage holder link target) :
    join.target = target ∨ join.target = link ∧ ∃ table, linkTable? linkage = some table := by
  cases linkage <;> simp only [linkageJoins, List.mem_cons, List.not_mem_nil, or_false] at h
  case through table holderPairs targetPairs =>
      rcases h with rfl | rfl
      · exact Or.inr ⟨rfl, table, rfl⟩
      · exact Or.inl rfl
  all_goals exact Or.inl (h ▸ rfl)

/-- Joining along a relationship adds only related rows, and nothing that was there changes. -/
theorem relates_of_mem_linkageJoins (hs : Source.Entering holder link target linkage)
    {inner : Assignment}
    (h : inner ∈ (linkageJoins linkage holder link target).foldl database.join assignments) :
    ∃ outer ∈ assignments,
      Assignment.AgreesOff ((linkageJoins linkage holder link target).map Join.target) outer inner ∧
      (List.lookup target inner).isSome ∧ inner.row target ∈ database.rows target.table ∧
      linkage.Relates database (outer.row holder) (inner.row target) := by
  cases linkage with
  | refersTo pairs =>
      simp only [linkageJoins, List.foldl_cons, List.foldl_nil, mem_join,
        Assignment.agrees_equate] at h
      obtain ⟨outer, ho, row, hr, rfl, hagree⟩ := h
      rw [Assignment.row_cons_self, Assignment.row_cons_of_ne _ _ hs.holder_ne_target] at hagree
      refine ⟨outer, ho, (Assignment.AgreesOff.refl _ _).cons (by simp [linkageJoins]) row, by simp,
        ?_, ?_⟩
      · simpa using hr
      · simpa [Linkage.Relates] using hagree
  | referredBy pairs =>
      simp only [linkageJoins, List.foldl_cons, List.foldl_nil, mem_join,
        Assignment.agrees_equate] at h
      obtain ⟨outer, ho, row, hr, rfl, hagree⟩ := h
      rw [Assignment.row_cons_self, Assignment.row_cons_of_ne _ _ hs.holder_ne_target] at hagree
      refine ⟨outer, ho, (Assignment.AgreesOff.refl _ _).cons (by simp [linkageJoins]) row, by simp,
        ?_, ?_⟩
      · simpa using hr
      · simpa [Linkage.Relates] using hagree
  | through table holderPairs targetPairs =>
      simp only [linkageJoins, List.foldl_cons, List.foldl_nil, mem_join,
        Assignment.agrees_equate] at h
      obtain ⟨_, ⟨outer, ho, pair, hp, rfl, hholder⟩, row, hr, rfl, htarget⟩ := h
      rw [Assignment.row_cons_self, Assignment.row_cons_of_ne _ _ hs.holder_ne_link] at hholder
      rw [Assignment.row_cons_self, Assignment.row_cons_of_ne _ _ hs.link_ne_target,
        Assignment.row_cons_self] at htarget
      have htable : link.table = table := hs.link_table table rfl
      refine ⟨outer, ho, ?_, by simp, by simpa using hr, ?_⟩
      · exact ((Assignment.AgreesOff.refl _ _).cons (by simp [linkageJoins]) pair).cons
          (by simp [linkageJoins]) row
      · rw [Assignment.row_cons_self]
        exact ⟨pair, htable ▸ hp, hholder, htarget⟩

/-- Conversely, every related row is among those that joining along a relationship adds. -/
theorem exists_mem_linkageJoins (hs : Source.Entering holder link target linkage)
    {outer : Assignment} (ho : outer ∈ assignments) {row : Row}
    (hr : row ∈ database.rows target.table)
    (hrel : linkage.Relates database (outer.row holder) row) :
    ∃ inner ∈ (linkageJoins linkage holder link target).foldl database.join assignments,
      inner.row target = row ∧
      Assignment.AgreesOff ((linkageJoins linkage holder link target).map Join.target) outer
        inner := by
  have hagree := Assignment.AgreesOff.refl
    ((linkageJoins linkage holder link target).map Join.target) outer
  cases linkage with
  | refersTo pairs =>
      refine ⟨(target, row) :: outer, ?_, Assignment.row_cons_self ..,
        hagree.cons (by simp [linkageJoins]) row⟩
      simp only [linkageJoins, List.foldl_cons, List.foldl_nil, mem_join]
      refine ⟨outer, ho, row, hr, rfl, ?_⟩
      rw [Assignment.agrees_equate, Assignment.row_cons_self,
        Assignment.row_cons_of_ne _ _ hs.holder_ne_target]
      exact hrel
  | referredBy pairs =>
      refine ⟨(target, row) :: outer, ?_, Assignment.row_cons_self ..,
        hagree.cons (by simp [linkageJoins]) row⟩
      simp only [linkageJoins, List.foldl_cons, List.foldl_nil, mem_join]
      refine ⟨outer, ho, row, hr, rfl, ?_⟩
      rw [Assignment.agrees_equate, Assignment.row_cons_self,
        Assignment.row_cons_of_ne _ _ hs.holder_ne_target]
      exact hrel
  | through table holderPairs targetPairs =>
      obtain ⟨pair, hp, hholder, htarget⟩ := hrel
      have htable : link.table = table := hs.link_table table rfl
      refine ⟨(target, row) :: (link, pair) :: outer, ?_, Assignment.row_cons_self ..,
        (hagree.cons (by simp [linkageJoins]) pair).cons (by simp [linkageJoins]) row⟩
      simp only [linkageJoins, List.foldl_cons, List.foldl_nil, mem_join]
      refine ⟨(link, pair) :: outer, ⟨outer, ho, pair, htable ▸ hp, rfl, ?_⟩, row, hr, rfl, ?_⟩
      · rw [Assignment.agrees_equate, Assignment.row_cons_self,
          Assignment.row_cons_of_ne _ _ hs.holder_ne_link]
        exact hholder
      · rw [Assignment.agrees_equate, Assignment.row_cons_self,
          Assignment.row_cons_of_ne _ _ hs.link_ne_target, Assignment.row_cons_self]
        exact htarget

end Entering

end FilterQuery
