import Mathlib.Data.List.Forall2
import Mathlib.Tactic.Common
import FilterQuery.Proofs.DeclarationOrder
import FilterQuery.Proofs.Turns

/-!
# The shape of a built statement

What a built statement looks like, whatever the paths of its operators have in common.

**Legs.**  A `Leg` is a relationship that is joined, with the alias it starts from and the one it leads
to.  `Joined.exists_legs`: the joins that come of entering relationships are legs, one for each tracked
prefix and in the same order; each starts where its parent prefix leads, and no alias is used twice.

**In step.**  The tracker is changed in place, the subquery by copies.  `InStep` says that they agree
all the same, and what is tracked at all.

**The whole.**  `HasShape` lists the parts of the statement that comes out in the end, in their order.
`shape_of_build` is both: the former after any number of operators, the latter at the end.
-/

namespace FilterQuery

open FilterQuery.Sql

/-! ## Legs -/

/-- A relationship that is joined: its prefix, the alias that it starts from, the table of pairs on the
way if there is one, and the alias that it leads to. -/
structure Leg where
  path : FieldPath
  holder : Alias
  relationship : Relationship
  link : Source
  target : Alias

namespace Leg

/-- The joins of a leg. -/
def joins (leg : Leg) : List Join :=
  linkageJoins leg.relationship.linkage leg.holder.source leg.link leg.target.source

/-- What is tracked of a leg. -/
def entry (leg : Leg) : FieldPath × Alias :=
  (leg.path, leg.target)

/-- A leg goes on from the alias of its parent prefix, that of the root or one of those before it, along
the relationship that its last segment names there. -/
def GoesOn (schema : Schema) (root : Alias) (before : List Leg) (leg : Leg) : Prop :=
  ∃ behind segment, leg.path = behind ++ [segment] ∧
    aliasAt? root (before.map entry) behind = some leg.holder ∧
    schema.step? leg.holder.entity segment = some (leg.relationship, leg.target.entity) ∧
    leg.target.source.table = leg.target.entity.table

end Leg

/-- Tracker and joins are made of the same legs, each of which goes on from one before it or from the
root, and leads to an alias of its own. -/
structure MadeOf (schema : Schema) (root : Alias) (tracker : JoinTracker Alias) (joins : List Join)
    (legs : List Leg) : Prop where
  tracked : tracker = legs.map Leg.entry
  joined : joins = legs.flatMap Leg.joins
  goesOn : ∀ before leg after, legs = before ++ leg :: after → leg.GoesOn schema root before
  apart : (root.source :: joins.map Join.target).Nodup

section Legs

variable {schema : Schema} {root : Alias} {tracker : JoinTracker Alias} {joins : List Join}
  {fresh : Nat}

/-- The sources that entering a relationship adds are none of those that are there. -/
lemma Joined.apart_entered (h : Joined schema root tracker joins fresh) (linkage : Linkage)
    (target : Entity) (holder : Source) :
    ∀ join ∈ linkageJoins linkage holder (linkOf linkage fresh) (entered linkage target fresh).source,
      join.target ∉ root.source :: joins.map Join.target := by
  intro join hjoin hmem
  have hold : ∃ number, join.target.role = .related number ∧ number < fresh := by
    rcases List.mem_cons.mp hmem with heq | hmem
    · rw [heq]
      exact h.exists_number (aliasAt?_nil root tracker)
    · obtain ⟨other, hother, heq⟩ := List.mem_map.mp hmem
      exact heq ▸ h.role_of_mem_joins other hother
  obtain ⟨number, hrole, hlt⟩ := hold
  have hle := le_numberOf linkage fresh
  rcases target_of_mem_linkageJoins hjoin with htarget | ⟨htarget, table, htable⟩
  · have hnumber : numberOf linkage fresh = number := by simpa [htarget, entered] using hrole
    omega
  · have hnumber : fresh = number := by simpa [htarget, linkOf, htable] using hrole
    omega

/-- A relationship is joined under different aliases. -/
lemma nodup_linkageJoins (linkage : Linkage) (target : Entity) (holder : Source) (fresh : Nat) :
    ((linkageJoins linkage holder (linkOf linkage fresh)
      (entered linkage target fresh).source).map Join.target).Nodup := by
  cases linkage <;> simp [linkageJoins, linkOf, entered, numberOf, linkTable?]

/-- **Entering relationships one by one makes legs**, by induction on what was entered. -/
theorem Joined.exists_legs (h : Joined schema root tracker joins fresh) :
    ∃ legs, MadeOf schema root tracker joins legs := by
  induction h with
  | start hrole hlt => exact ⟨[], rfl, rfl, by simp, by simp⟩
  | @enter tracker joins fresh behind segment holder relationship target before hholder hnew hstep ih =>
      obtain ⟨legs, rfl, rfl, hgoes, hapart⟩ := ih
      let leg : Leg := ⟨behind ++ [segment], holder, relationship, linkOf relationship.linkage fresh,
        entered relationship.linkage target fresh⟩
      refine ⟨legs ++ [leg], ?_, ?_, ?_, ?_⟩
      · rw [JoinTracker.add, Entries.put_of_lookup_eq_none _ _ hnew, List.map_append]
        rfl
      · rw [List.flatMap_append, List.flatMap_singleton]
        rfl
      · intro earlier next after hsplit
        rcases List.eq_nil_or_concat after with rfl | ⟨others, last, rfl⟩
        · obtain ⟨rfl, hnext⟩ := List.append_inj' hsplit rfl
          obtain rfl := List.singleton_inj.mp hnext
          exact ⟨behind, segment, rfl, hholder, hstep, rfl⟩
        · rw [List.concat_eq_append, ← List.cons_append, ← List.append_assoc] at hsplit
          obtain ⟨hlegs, -⟩ := List.append_inj' hsplit rfl
          exact hgoes earlier next others hlegs
      · rw [List.map_append, ← List.cons_append, List.nodup_append]
        refine ⟨hapart, nodup_linkageJoins .., ?_⟩
        rintro source hsource other hother rfl
        obtain ⟨join, hjoin, rfl⟩ := List.mem_map.mp hother
        exact before.apart_entered relationship.linkage target holder.source join hjoin hsource

end Legs

/-! ## In step -/

/-- Tracker and subquery agree after some present operators.  What is tracked are the prefixes of their
paths, in the order in which they are first used, and the subquery joins each of them once. -/
structure InStep (schema : Schema) (entity : Entity) (done : List Present) (progress : Progress) :
    Prop where
  closed : ∀ path ∈ progress.prefixes, ∀ other, other ≠ [] → other <+: path →
    other ∈ progress.prefixes
  used : ∀ path, path ∈ progress.prefixes ↔ path ≠ [] ∧ IsPrefixOf path (relatedOnly done)
  order : progress.prefixes = prefixesOf ((relatedOnly done).map Present.behind)
  none_iff : progress.related = none ↔ relatedOnly done = []
  joins : ∀ related, progress.related = some related →
    related.root = (relatedRoot entity).source ∧
    ∃ legs, MadeOf schema (relatedRoot entity) progress.tracker related.joins legs

/-- Operators on the root entity have no prefixes. -/
lemma prefixesOf_relatedOnly (done : List Present) :
    prefixesOf ((relatedOnly done).map Present.behind) = prefixesOf (done.map Present.behind) := by
  suffices h : ((relatedOnly done).map Present.behind).flatMap FieldPath.prefixes =
      (done.map Present.behind).flatMap FieldPath.prefixes by
    rw [prefixesOf, h, prefixesOf]
  induction done with
  | nil => rfl
  | cons present rest ih =>
      have hsplit : relatedOnly (present :: rest) = relatedOnly [present] ++ relatedOnly rest :=
        relatedOnly_append [present] rest
      rw [hsplit, List.map_append, List.flatMap_append, ih, List.map_cons, List.flatMap_cons]
      congr 1
      by_cases hroot : present.IsRoot
      · have hnil : present.behind = [] :=
          List.eq_nil_of_length_eq_zero (by rw [Present.behind, List.length_dropLast, hroot])
        rw [(only_of_isRoot hroot).2, hnil]
        rfl
      · rw [(only_of_not_isRoot hroot).2]
        simp

section Statements

variable {schema : Schema} {entity : Entity} {ignoreCase : Bool} {filters : Mapping}
  {base statement : Statement} {done : List Present} {progress : Progress}

/-- What is tracked so far is in step. -/
lemma Tracks.inStep (h : Tracks schema entity ignoreCase base done statement progress) :
    InStep schema entity done progress := by
  have horder : progress.prefixes = prefixesOf ((relatedOnly done).map Present.behind) := by
    rw [h.prefixes, prefixesOf_relatedOnly]
  have hused : ∀ path, path ∈ progress.prefixes ↔
      path ≠ [] ∧ IsPrefixOf path (relatedOnly done) := by
    intro path
    rw [horder, mem_prefixesOf]
    simp [IsPrefixOf]
  refine ⟨?_, hused, horder, ?_, ?_⟩
  · intro path hpath other hother hsub
    obtain ⟨-, present, hpresent, hbehind⟩ := (hused path).mp hpath
    exact (hused other).mpr ⟨hother, present, hpresent, hsub.trans hbehind⟩
  · cases h.built.holding with
    | nothing hnone => simp [hnone]
    | subquery hsome hcollected => simp [hsome]
  · rintro related hrelated
    cases h.built.holding with
    | nothing hnone => cases hrelated
    | subquery hsome hcollected =>
        obtain rfl := Option.some.inj hrelated
        refine ⟨?_, hcollected.joined.exists_legs⟩
        rw [hcollected.start]
        rfl

/-! ## The whole -/

/-- The parts of a statement that was built of a base.  All is as it was in the base but the
conditions, and perhaps the order.  Behind the conditions of the base come those of the operators on
the root entity in the order of their declaration, and one subquery if there are others.  It speaks of
the row outside, finds it by all key columns, and has the conditions of the others in order. -/
structure HasShape (schema : Schema) (entity : Entity) (ignoreCase : Bool) (base : Statement)
    (all : List Present) (progress : Progress) (result : Statement) : Prop where
  frame : ∃ order, result = { base with conditions := result.conditions, order := order }
  sources : result.sources = base.sources
  conditions : ∃ added, List.Forall₂ (RootCondition schema entity ignoreCase) (rootOnly all) added ∧
    result.conditions = base.conditions ++ added ++ (progress.related.map Condition.exists).toList
  some_iff : progress.related.isSome ↔ relatedOnly all ≠ []
  subquery : ∀ related, progress.related = some related →
    related.entity = entity ∧ related.ownSources result.sources = [] ∧
    related.correlation = entity.keyColumns.map (fun column =>
      (⟨related.root, column.name⟩, ⟨.ofTable entity.table, column.name⟩)) ∧
    List.Forall₂ (StandsFor schema entity ignoreCase progress.tracker) (relatedOnly all)
      related.predicates

/-- What is built has this shape. -/
lemma Built.hasShape {result : Statement} {clauses : List OrderClause}
    (h : Built schema entity ignoreCase base done statement progress) (hover : base.Over entity)
    (horder : (withRelated statement progress.related).orderBy clauses = .ok result) :
    HasShape schema entity ignoreCase base done progress result := by
  obtain ⟨order, rfl⟩ := Statement.order_of_orderBy horder
  obtain ⟨added, rfl, hadded⟩ := h.conditions
  rw [withRelated_added]
  have hspoken : ∀ source ∈ conditionSources
      (added ++ (progress.related.map Condition.exists).toList), source ∈ base.sources := by
    rw [conditionSources_append, conditionSources_related, List.append_nil]
    exact hover.speaks (source_of_conditions hadded)
  have hsources : (base.withConditions
      (added ++ (progress.related.map Condition.exists).toList)).sources = base.sources :=
    Statement.sources_withConditions hspoken
  refine ⟨⟨order, rfl⟩, hsources, ⟨added, hadded, ?_⟩, ?_, ?_⟩
  · rw [List.append_assoc]
    rfl
  · cases h.holding with
    | nothing hnone => simp [hnone]
    | subquery hsome hcollected => simp [hsome]
  · intro related hrelated
    cases h.holding with
    | nothing hnone => cases hrelated
    | subquery hsome hcollected =>
        obtain rfl := Option.some.inj hrelated
        refine ⟨?_, hcollected.ownSources_eq_nil ?_, ?_, hcollected.predicates⟩
        · rw [hcollected.start]
          rfl
        · exact hsources ▸ hover.occurs
        · rw [hcollected.start]
          rfl

/-- **The shape of a built statement.**  After any number of operators that were applied the build goes
on from progress in which tracker and subquery are in step.  If the whole build does not fail they are in
step in the end, and the statement has the shape that its present operators give it. -/
theorem shape_of_build (definition : Definition) (hover : base.Over entity) :
    (∀ early late statement progress, turns definition.fields = early ++ late →
      (applyTurns ⟨schema, .mapping filters, ignoreCase⟩ (.entity entity) early base).run .start =
        (.ok statement, progress) →
      (applyFields ⟨schema, .mapping filters, ignoreCase⟩ (.entity entity) definition.fields
          base).run .start =
        (applyTurns ⟨schema, .mapping filters, ignoreCase⟩ (.entity entity) late statement).run
          progress ∧
      InStep schema entity (early.filterMap (Turn.present? filters)) progress) ∧
    ∀ result,
      (buildFresh ⟨schema, .mapping filters, ignoreCase⟩ definition base).1 = .ok result →
      ∃ statement progress,
        (applyFields ⟨schema, .mapping filters, ignoreCase⟩ (.entity entity) definition.fields
          base).run .start = (.ok statement, progress) ∧
        InStep schema entity (present filters definition.fields) progress ∧
        HasShape schema entity ignoreCase base (present filters definition.fields) progress
          result := by
  have hstart := Tracks.begin schema entity ignoreCase base
  constructor
  · intro early late statement progress hsplit hrun
    have hearly := applyTurns_tracks filters early hstart
    rw [hrun] at hearly
    refine ⟨?_, hearly.of_ok.2.inStep⟩
    rw [applyFields_eq_applyTurns, hsplit, applyTurns, List.foldlM_append, Build.run_bind,
      ← applyTurns, hrun]
    rfl
  · intro result hbuild
    have hcheck := checkAll_of_build hover.root (.start schema entity) hbuild
    have hall := applyTurns_tracks filters (turns definition.fields) hstart
    rw [← present_eq_filterMap_turns, ← applyFields_eq_applyTurns, hcheck] at hall
    obtain ⟨statement, progress, hrun, htracks⟩ := hall
    refine ⟨statement, progress, hrun, htracks.inStep, ?_⟩
    rw [buildFresh, run_build definition hover.root, hrun] at hbuild
    exact htracks.built.hasShape hover (mapError_eq_ok.mp hbuild)

end Statements

/-- Of two paths over the comments of posts one goes on to their authors: two prefixes are tracked, and
the subquery stands behind the condition on the title. -/
theorem shape_of_build_posts :
    ∃ result, (buildFresh ⟨Sample.schema, .mapping Sample.commentFilters, true⟩
        Sample.byCommentAndTitle Sample.allPosts).1 = .ok result ∧
      ∃ statement progress,
        (applyFields ⟨Sample.schema, .mapping Sample.commentFilters, true⟩ (.entity Sample.post)
          Sample.byCommentAndTitle.fields Sample.allPosts).run .start = (.ok statement, progress) ∧
        progress.prefixes = [["comments"], ["comments", "author"]] ∧
        InStep Sample.schema Sample.post
          (present Sample.commentFilters Sample.byCommentAndTitle.fields) progress ∧
        HasShape Sample.schema Sample.post true Sample.allPosts
          (present Sample.commentFilters Sample.byCommentAndTitle.fields) progress result := by
  have hover : Sample.allPosts.Over Sample.post := Sample.allPosts_base Sample.post rfl
  obtain ⟨result, hbuild⟩ : ∃ result, (buildFresh ⟨Sample.schema, .mapping Sample.commentFilters,
      true⟩ Sample.byCommentAndTitle Sample.allPosts).1 = .ok result := ⟨_, rfl⟩
  obtain ⟨statement, progress, hrun, hstep, hshape⟩ :=
    (shape_of_build Sample.byCommentAndTitle hover).2 result hbuild
  exact ⟨result, hbuild, statement, progress, hrun, hstep.order, hstep, hshape⟩

end FilterQuery
