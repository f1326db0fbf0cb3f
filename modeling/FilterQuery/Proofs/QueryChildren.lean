import Mathlib.Tactic.Common
import FilterQuery.Proofs.Linking
import FilterQuery.Proofs.Parents

/-!
# Fetched children

Children are fetched by the query of their parents, along with which they are loaded.

**Collections.**  `IsOneToMany` and `LeadsBack` are what the relationship and its inverse should be;
children that refer to the key of their parent are one-to-many (`IsOneToMany.of_key`).

**Fetching.**  `queryChildren_of_query`: of a query that does not fail, families are loaded and
linked, and nothing else is left to fail.

**The children.**  `queryChildren_agrees` puts the parts together: whenever the rows of a query come
back, its children are fetched, family by family, and each is linked to its parent.
-/

namespace FilterQuery

open FilterQuery.Sql

/-! ## Collections -/

/-- A collection of an entity whose target rows have one parent each. -/
structure IsOneToMany (database : Database) (association : String) (eager : Eager) : Prop where
  found : eager.parent.relationship? association = some eager.relationship
  many : eager.relationship.isMany = true
  target : database.schema.target? eager.relationship = some eager.target
  one : ∀ row ∈ database.rows eager.parent.table, ∀ other ∈ database.rows eager.parent.table,
    ∀ child ∈ database.rows eager.target.table,
      eager.relationship.linkage.Relates database row child →
      eager.relationship.linkage.Relates database other child → row = other

/-- Children that refer to the key of their parent have one parent each. -/
lemma IsOneToMany.of_key {database : Database} {association : String} {eager : Eager}
    {pairs : List (String × String)} (hkeys : database.KeysTell eager.parent)
    (found : eager.parent.relationship? association = some eager.relationship)
    (many : eager.relationship.isMany = true)
    (target : database.schema.target? eager.relationship = some eager.target)
    (hlinkage : eager.relationship.linkage = .referredBy pairs)
    (hpairs : ∀ column ∈ eager.parent.keyColumns, ∃ pair ∈ pairs, pair.1 = column.name) :
    IsOneToMany database association eager := by
  refine ⟨found, many, target, fun row hrow other hother child _ hrel hrel' => ?_⟩
  rw [hlinkage] at hrel hrel'
  refine hkeys.apart row hrow other hother fun column hcolumn => ?_
  obtain ⟨pair, hpair, hname⟩ := hpairs column hcolumn
  rw [← hname]
  exact Cell.equal?_of_equal? (hrel pair hpair) (hrel' pair hpair)

/-- The attribute that refers from a child to its one parent: the one that is given, else the
declared inverse. -/
structure LeadsBack (eager : Eager) (given : Value) (backward : String) : Prop where
  named : given = .str backward ∨
    given.isTruthy = false ∧ eager.relationship.inverse = some backward
  notEmpty : backward ≠ ""
  single : ∃ inverse, eager.target.relationship? backward = some inverse ∧ inverse.isMany = false

/-! ## Fetching -/

section Children

variable {database : Database} {settings : Settings} {association backward : String}
  {base statement : Statement} {options given : Value} {configure : Configure}
  {definition : Definition} {eager : Eager} {after : List OrderTerm} {rows : List (List Item)}

/-- The attribute is found. -/
lemma LeadsBack.parentAttribute_eq_ok (h : LeadsBack eager given backward) :
    parentAttribute (.ofRelationship eager.parent eager.relationship eager.target) given =
      .ok backward := by
  obtain ⟨inverse, hinverse, -⟩ := h.single
  have htruthy : (Value.str backward).isTruthy = true := by
    simpa [Value.isTruthy] using h.notEmpty
  have hname : (Inverse.ofRelationship eager.parent eager.relationship eager.target).name given =
      .str backward := by
    rcases h.named with rfl | ⟨hgiven, hdeclared⟩
    · simp [Inverse.name, htruthy]
    · simp [Inverse.name, Inverse.ofRelationship, hgiven, hdeclared, htruthy]
  have hbackward : inverse.name = backward := by
    simpa using List.find?_some hinverse
  simp only [parentAttribute, hname, htruthy]
  simp [Value.text?, Value.unhashable?, Inverse.ofRelationship, hinverse, hbackward]

/-- Children can be loaded along with the records of their parents. -/
lemma checkLoadable_eq_ok
    (hfirst : statement.selected.head? = some (.entity eager.parent eager.holder)) :
    checkLoadable statement eager = .ok () := by
  have hmem : eager.parent ∈ selectedEntities statement :=
    List.mem_filterMap.mpr ⟨_, List.mem_of_mem_head? hfirst, rfl⟩
  have hany : ((selectedEntities statement).any fun entity => entity.name == eager.parent.name) =
      true := List.any_eq_true.mpr ⟨eager.parent, hmem, beq_self_eq_true _⟩
  simp only [checkLoadable, hany, if_true]

/-- Of a query that does not fail the families are loaded and linked. -/
lemma queryChildren_of_query (hroot : base.root = .entity eager.parent)
    (hcollection : IsOneToMany database association eager)
    (hback : LeadsBack eager given backward)
    (hquery : (query database.schema settings base options configure).1 = .ok statement)
    (hfirst : statement.selected.head? = some (.entity eager.parent eager.holder)) :
    (queryChildren database settings association base options configure given).1 = do
      let families ← ((statement.withEager (some eager)).families database eager).mapError
        ChildrenFault.run
      let linked ← (linkLoaded database.schema families association backward).mapError
        ChildrenFault.link
      return ⟨(Query.rows (statement.withEager (some eager))).written, backward, linked⟩ := by
  have hsame : (query database.schema settings (base.withEager (some eager)) options configure).1 =
      .ok (statement.withEager (some eager)) := by
    rw [query_withEager, hquery]
    rfl
  have hfetch : (query database.schema settings { base with eager := some eager } options
      configure).1 = .ok (statement.withEager (some eager)) := hsame
  have hrelationship : childRelationship base.root association =
      .ok (eager.parent, eager.relationship) := by
    simp [childRelationship, hroot, collectionOf, hcollection.found, hcollection.many, Except.map]
  have hloadable : checkLoadable (statement.withEager (some eager)) eager = .ok () :=
    checkLoadable_eq_ok hfirst
  rw [queryChildren]
  simp only [hrelationship, hcollection.target, hback.parentAttribute_eq_ok, Except.mapError, bind,
    Except.bind, pure, Except.pure, hfetch, hloadable]
  cases (statement.withEager (some eager)).families database eager with
  | error fault => rfl
  | ok families =>
      cases hlinked : linkLoaded database.schema families association backward with
      | error fault => simp [hlinked]
      | ok linked => simp [hlinked]

/-! ## The children -/

/-- Every child is listed once. -/
lemma nodup_of_lists {isParent : Row → Prop} {listing : List (Row × List Row)}
    (h : Lists database eager isParent listing)
    (hparents : ∀ row, isParent row → row ∈ database.rows eager.parent.table)
    (hkeys : database.KeysTell eager.target)
    (hcollection : IsOneToMany database association eager) :
    (listing.flatMap fun family => family.2.map (recordOf eager.target)).Nodup := by
  have hchild : ∀ family ∈ listing, ∀ row ∈ family.2, row ∈ database.rows eager.target.table :=
    fun family hfamily row hrow => ((h.children family hfamily row).mp hrow).1
  rw [List.nodup_flatMap]
  refine ⟨fun family hfamily => ?_, ?_⟩
  · refine (h.children_nodup family hfamily).map_on fun a ha b hb => ?_
    exact hkeys.row_eq (hchild family hfamily a ha) (hchild family hfamily b hb)
  · have hdistinct : listing.Pairwise fun a b => a.1 ≠ b.1 := List.pairwise_map.mp h.parents_nodup
    refine hdistinct.imp_of_mem fun {one other} hone hother hne => ?_
    intro record hrecord hrecord'
    obtain ⟨row, hrow, rfl⟩ := List.mem_map.mp hrecord
    obtain ⟨row', hrow', hsame⟩ := List.mem_map.mp hrecord'
    obtain rfl := hkeys.row_eq (hchild other hother row' hrow') (hchild one hone row hrow) hsame
    have hparent : ∀ family ∈ listing, family.1 ∈ database.rows eager.parent.table := by
      intro family hfamily
      exact hparents _ ((h.parents _).mp (List.mem_map.mpr ⟨family, hfamily, rfl⟩))
    exact hne (hcollection.one _ (hparent one hone) _ (hparent other hother) _
      (hchild one hone _ hrow) ((h.children one hone _).mp hrow).2
      ((h.children other hother _).mp hrow').2)

/-- Every related record refers to one parent. -/
lemma refersToOne_of_target (hcollection : IsOneToMany database association eager)
    (hback : LeadsBack eager given backward) (row : Row) :
    RefersToOne database.schema backward (recordOf eager.target row) := by
  obtain ⟨inverse, hinverse, hsingle⟩ := hback.single
  have htarget := hcollection.target
  have hname : eager.target.name = eager.relationship.target := by
    simpa using List.find?_some htarget
  refine ⟨eager.target, inverse, ?_, hinverse, hsingle⟩
  rw [recordOf, hname]
  exact htarget

/-- Families that are loaded are fetched: the children are those that are listed, each once, and each is
linked to its parent. -/
lemma fetched_of_families {isParent : Row → Prop} {listing : List (Row × List Row)}
    (hroot : base.root = .entity eager.parent)
    (hcollection : IsOneToMany database association eager)
    (hback : LeadsBack eager given backward) (hkeys' : database.KeysTell eager.target)
    (hquery : (query database.schema settings base options configure).1 = .ok statement)
    (hfirst : statement.selected.head? = some (.entity eager.parent eager.holder))
    (hfamilies : (statement.withEager (some eager)).families database eager =
      .ok (listing.map fun family =>
        ⟨.record (recordOf eager.parent family.1), family.2.map (recordOf eager.target)⟩))
    (hlists : Lists database eager isParent listing)
    (hparents : ∀ row, isParent row → row ∈ database.rows eager.parent.table) :
    ∃ fetched, (queryChildren database settings association base options configure given).1 =
        .ok fetched ∧
      fetched.linked.families = listing.map (fun family =>
        (recordOf eager.parent family.1, family.2.map (recordOf eager.target))) ∧
      fetched.linked.children.Nodup ∧
      ∀ family ∈ fetched.linked.families, ∀ child ∈ family.2,
        fetched.linked.session.held? child backward = some (.record family.1) := by
  let families := listing.map fun family =>
    (recordOf eager.parent family.1, family.2.map (recordOf eager.target))
  have hrefers : ∀ family ∈ families, ∀ child ∈ family.2,
      RefersToOne database.schema backward child := by
    intro family hfamily child hchild
    obtain ⟨found, -, rfl⟩ := List.mem_map.mp hfamily
    obtain ⟨row, -, rfl⟩ := List.mem_map.mp hchild
    exact refersToOne_of_target hcollection hback row
  have hlinked : linkLoaded database.schema (listing.map fun family =>
        ⟨.record (recordOf eager.parent family.1), family.2.map (recordOf eager.target)⟩)
      association backward = .ok ⟨families, Session.empty.linkAll backward families⟩ := by
    rw [← linkLoaded_eq_ok association hrefers, List.map_map]
    rfl
  have hnodup : (families.flatMap Prod.snd).Nodup := by
    have hlisted := nodup_of_lists hlists hparents hkeys' hcollection
    rwa [List.flatMap_map]
  refine ⟨⟨(Query.rows (statement.withEager (some eager))).written, backward,
    families, Session.empty.linkAll backward families⟩, ?_, rfl, hnodup, ?_⟩
  · rw [queryChildren_of_query hroot hcollection hback hquery hfirst]
    simp only [hfamilies, Except.mapError, bind, Except.bind, hlinked]
    rfl
  · intro family hfamily child hchild
    exact Session.held?_of_nodup backward .empty hnodup hfamily hchild

/-- **The children.**  Fetching children agrees with the query of their parents.  It fails where the
rows of the query do not come back, and in the same way.  Where they do, it gives the selected
parents, each once and in the order of the base and of the definition, with all their related rows
and nothing else, each of these once, in the declared order, and linked to the parent under which it
is listed. -/
theorem queryChildren_agrees (hbase : base.OfParents eager.parent)
    (hcollection : IsOneToMany database association eager)
    (hback : LeadsBack eager given backward) (hkeys : database.KeysTell eager.parent)
    (hkeys' : database.KeysTell eager.target) (hstored : database.IsStored)
    (hdefinition : configure.build = .ok definition)
    (hterms : definition.ordering.mapM OrderClause.term = .ok after)
    (horder : IsByColumnsOf eager.parent (base.order ++ after))
    (hquery : (query database.schema settings base options configure).1 = .ok statement) :
    (∀ fault, Query.run database (.rows statement) = .error fault →
      (queryChildren database settings association base options configure given).1 =
        .error (.run fault)) ∧
    ∀ rows, Query.run database (.rows statement) = .ok rows → ∃ fetched listing,
      (queryChildren database settings association base options configure given).1 =
        .ok fetched ∧
      fetched.linked.families = listing.map (fun family =>
        (recordOf eager.parent family.1, family.2.map (recordOf eager.target))) ∧
      IsListing database eager ((base.order ++ after).flatMap OrderTerm.keys)
        (fun row => row ∈ database.rows eager.parent.table ∧
          ∃ found ∈ rows, found.head? = some (.record (recordOf eager.parent row))) listing ∧
      fetched.linked.children.Nodup ∧
      ∀ family ∈ fetched.linked.families, ∀ child ∈ family.2,
        fetched.linked.session.held? child backward = some (.record family.1) := by
  have hafter : IsByColumnsOf eager.parent after :=
    fun term hterm => horder term (List.mem_append_right _ hterm)
  obtain ⟨added, hstatement, hadded⟩ :=
    exists_conditions_of_query hbase.isOver.root hdefinition hterms hafter hquery
  have hparents : statement.OfParents eager.parent := hstatement ▸ hbase.of_query hadded
  have hordered : statement.order = base.order ++ after := by rw [hstatement]
  rw [← hordered] at horder ⊢
  obtain ⟨hfault, hrows⟩ := families_withEager hparents hkeys hkeys' hstored horder
  constructor
  · intro fault hrun
    rw [queryChildren_of_query hbase.isOver.root hcollection hback hquery hparents.first,
      hfault fault hrun]
    rfl
  · intro rows hrun
    obtain ⟨listing, hfamilies, hlisting⟩ := hrows rows hrun
    obtain ⟨fetched, hfetched, hlisted, hnodup, hheld⟩ := fetched_of_families hbase.isOver.root
      hcollection hback hkeys' hquery hparents.first hfamilies hlisting.lists
      fun row hrow => hrow.1
    exact ⟨fetched, listing, hfetched, hlisted, hlisting, hnodup, hheld⟩

end Children

namespace Sample

/-- The comments of posts. -/
def postComments : Eager :=
  ⟨post, referredBy "comments" "Comment" [("id", "post_id")] [("id", false)] (some "post"), comment⟩

/-- Posts by the name of who has commented on them, the latest first. -/
def byCommentAuthor : Definition where
  fields := [⟨["comments", "author", "name"], [(.op .equalTo, "author")]⟩]
  ordering := [.column ⟨.ofTable "posts", "posted_date", .date⟩ (some true) none]

/-- One author, who has commented on two posts among others. -/
def authorOptions : Value :=
  .mapping [(.str "with", .mapping [(.str "author", .str "alice")])]

/-- The posts with a comment of this author. -/
def postsByAuthor : Statement :=
  (query schema .default allPosts authorOptions (.definition byCommentAuthor)).1.toOption.getD
    allPosts

lemma allPosts_ofParents : allPosts.OfParents postComments.parent :=
  ⟨⟨rfl, by decide⟩, rfl, rfl, ⟨rfl, rfl⟩, by decide⟩

lemma keysTell_post : database.KeysTell post :=
  ⟨by decide +kernel, by decide +kernel⟩

lemma keysTell_comment : database.KeysTell comment :=
  ⟨by decide +kernel, by decide +kernel⟩

lemma isStored_database : database.IsStored := by
  rw [Database.IsStored]
  decide +kernel

lemma isOneToMany_postComments : IsOneToMany database "comments" postComments :=
  .of_key keysTell_post rfl rfl rfl rfl (by decide)

lemma leadsBack_postComments : LeadsBack postComments .null "post" :=
  ⟨Or.inr ⟨rfl, rfl⟩, by decide, _, rfl, rfl⟩

/-- The latest posts first. -/
def latestFirst : List OrderTerm :=
  [.column ⟨.ofTable "posts", "posted_date", .date⟩ (some true) none]

lemma isByColumnsOf_latestFirst :
    IsByColumnsOf postComments.parent (allPosts.order ++ latestFirst) := by
  intro term hterm
  obtain rfl := List.mem_singleton.mp hterm
  exact ⟨_, _, _, rfl, rfl⟩

lemma term_byCommentAuthor : byCommentAuthor.ordering.mapM OrderClause.term = .ok latestFirst := rfl

lemma query_postsByAuthor :
    (query database.schema .default allPosts authorOptions (.definition byCommentAuthor)).1 =
      .ok postsByAuthor := rfl

/-- Two posts are selected, and the second is the later one. -/
lemma scope_postsByAuthor : ∃ first second, postsByAuthor.scope database = [first, second] ∧
    SortKey.orderAll (latestFirst.flatMap OrderTerm.keys) first second = .gt ∧
    unique (postsByAuthor.items [second, first]) =
      [[.record ⟨"Post", [.int 3]⟩], [.record ⟨"Post", [.int 1]⟩]] := by
  refine ⟨_, _, rfl, ?_, ?_⟩ <;> decide +kernel

lemma run_postsByAuthor : Query.run database (.rows postsByAuthor) =
    .ok [[.record ⟨"Post", [.int 3]⟩], [.record ⟨"Post", [.int 1]⟩]] := by
  have hover : postsByAuthor.Over post := ⟨rfl, by decide +kernel⟩
  have hstored : withParameters .misread (Query.rows postsByAuthor).written.parameters (some ()) =
      .ok () := by
    decide +kernel
  obtain ⟨first, second, hscope, hlater, hitems⟩ := scope_postsByAuthor
  rw [run_eq_of_columns hover isByColumnsOf_latestFirst]
  refine withParameters_eq_ok.mpr ⟨(withParameters_eq_ok.mp hstored).1, congrArg some ?_⟩
  have hsorted : sortBy (latestFirst.flatMap OrderTerm.keys) (postsByAuthor.scope database) =
      [second, first] := by
    rw [hscope, sortBy, if_neg (by decide)]
    simp [List.mergeSort, List.MergeSort.Internal.splitInTwo, hlater]
  rw [← hitems, ← hsorted]
  rfl

end Sample

/-- All comments come back for the posts on which the author has commented, not only those of the
author. -/
theorem queryChildren_agrees_comments :
    ∃ fetched listing,
      (queryChildren Sample.database .default "comments" Sample.allPosts Sample.authorOptions
        (.definition Sample.byCommentAuthor) .null).1 = .ok fetched ∧
      fetched.linked.families = listing.map (fun family =>
        (recordOf Sample.post family.1, family.2.map (recordOf Sample.comment))) ∧
      IsListing Sample.database Sample.postComments
        [⟨⟨.ofTable "posts", "posted_date"⟩, true, none⟩]
        (fun row => row ∈ Sample.database.rows "posts" ∧
          ∃ found ∈ [[Item.record ⟨"Post", [.int 3]⟩], [Item.record ⟨"Post", [.int 1]⟩]],
            found.head? = some (.record (recordOf Sample.post row))) listing ∧
      fetched.linked.children.Nodup ∧
      ∀ family ∈ fetched.linked.families, ∀ child ∈ family.2,
        fetched.linked.session.held? child "post" = some (.record family.1) :=
  (queryChildren_agrees Sample.allPosts_ofParents Sample.isOneToMany_postComments
    Sample.leadsBack_postComments Sample.keysTell_post Sample.keysTell_comment
    Sample.isStored_database rfl Sample.term_byCommentAuthor Sample.isByColumnsOf_latestFirst
    Sample.query_postsByAuthor).2 _ Sample.run_postsByAuthor

end FilterQuery
