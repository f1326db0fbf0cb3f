import Mathlib.Tactic.Common
import FilterQuery.Proofs.DeclarationOrder
import FilterQuery.Proofs.Faults
import FilterQuery.Proofs.Skipped

/-!
# Using a builder again

A builder keeps its progress, also when a build fails: the prefixes that were joined, and the
subquery with all its conditions.  The next build adds its own conditions to those.

**Closed conditions.**  `Condition.IsClosed`: a subquery speaks only of what it joins and of the row
outside.  `Collected.isClosed` goes along the joins as `Joined` makes them.

**Over an entity.**  `Progress.Left` is what builds leave behind: progress that leads, and, where the
definition has no fault, a subquery for present operators of this definition.  One build keeps this
(`build_keeps_left`), hence any number of them does.

**Other roots.**  Over anything else a build changes nothing but what is reported.

**Any number of builds.**  `build_after_builds`: a used builder fails exactly as a new one does, and
what it builds gives the same rows.
-/

namespace FilterQuery

open FilterQuery.Sql

/-! ## Closed conditions -/

/-- The equalities of a chain of joins speak only of sources that are there by then. -/
def JoinsClosed (known : List Source) : List Join → Prop
  | [] => True
  | join :: rest =>
    (∀ pair ∈ join.equalities, pair.1.source ∈ known ++ [join.target] ∧
      pair.2.source ∈ known ++ [join.target]) ∧ JoinsClosed (known ++ [join.target]) rest

/-- A subquery speaks only of what it joins, and is tied to the table of its entity outside. -/
structure Sql.Related.IsClosed (related : Related) : Prop where
  joins : JoinsClosed [related.root] related.joins
  correlation : ∀ pair ∈ related.correlation,
    pair.1.source = related.root ∧ pair.2.source = .ofTable related.entity.table
  predicates : ∀ predicate ∈ related.predicates,
    predicate.column.source ∈ related.joinedSources

/-- A condition on a column of a table itself, or a closed subquery over the entity of this table. -/
def Sql.Condition.IsClosed (entity : Entity) : Condition → Prop
  | .test predicate => predicate.column.source = .ofTable entity.table
  | .exists related => related.entity = entity ∧ related.IsClosed
  | .written _ sources => ∀ source ∈ sources, source = .ofTable entity.table

/-- More joins may speak of what was joined before. -/
lemma joinsClosed_append {known : List Source} {joins more : List Join} :
    JoinsClosed known (joins ++ more) ↔
      JoinsClosed known joins ∧ JoinsClosed (known ++ joins.map Join.target) more := by
  induction joins generalizing known with
  | nil => simp [JoinsClosed]
  | cons join rest ih => simp [JoinsClosed, ih, and_assoc]

/-- The joins along a relationship start from its holder. -/
lemma joinsClosed_linkageJoins {known : List Source} {holder : Source} (linkage : Linkage)
    (link target : Source) (hholder : holder ∈ known) :
    JoinsClosed known (linkageJoins linkage holder link target) := by
  cases linkage <;> simp only [linkageJoins, JoinsClosed, equate, List.forall_mem_map] <;>
    simp [hholder]

/-- What is entered one by one is closed, by induction on what was entered. -/
lemma Joined.joinsClosed {schema : Schema} {root : Alias} {tracker : JoinTracker Alias}
    {joins : List Join} {fresh : Nat} (h : Joined schema root tracker joins fresh) :
    JoinsClosed [root.source] joins := by
  induction h with
  | start hrole hlt => trivial
  | enter before hholder hnew hstep ih =>
      have hmem := before.mem_joinSources hholder
      exact joinsClosed_append.mpr ⟨ih, joinsClosed_linkageJoins _ _ _ hmem⟩

section Closed

variable {schema : Schema} {entity : Entity} {ignoreCase : Bool}

lemma Collected.isClosed {entered : List FieldPath} {tested : List Present}
    {tracker : JoinTracker Alias} {fresh : Nat} {related : Related}
    (h : Collected schema entity ignoreCase entered tested tracker fresh related) :
    related.entity = entity ∧ related.IsClosed := by
  have hpredicates := h.column_mem_joinedSources
  have hjoins := h.joined.joinsClosed
  rw [h.start] at hpredicates ⊢
  refine ⟨rfl, hjoins, ?_, hpredicates⟩
  intro pair hpair
  obtain ⟨column, -, rfl⟩ := List.mem_map.mp hpair
  exact ⟨rfl, rfl⟩

/-- Whatever a build adds to its base is closed. -/
lemma Built.isClosed {base statement : Statement} {all : List Present} {progress : Progress}
    (h : Built schema entity ignoreCase base all statement progress) :
    ∀ condition ∈ (withRelated statement progress.related).conditions,
      condition ∈ base.conditions ∨ condition.IsClosed entity := by
  obtain ⟨added, rfl, hadded⟩ := h.conditions
  rw [withRelated_added]
  intro condition hcondition
  rcases List.mem_append.mp hcondition with hbase | hcondition
  · exact Or.inl hbase
  right
  rcases List.mem_append.mp hcondition with hroot | hrelated
  · refine (forall_iff_of_forall₂ (P := fun _ => True) hadded ?_).mp (fun _ _ => trivial) _ hroot
    rintro present found ⟨test, -, rfl⟩
    simp [Condition.IsClosed, Predicate.column_map, ColumnRef.ofColumn]
  · cases h.holding with
    | nothing hnone => simp at hrelated
    | subquery hsome hcollected =>
        obtain rfl : condition = .exists _ := by simpa using hrelated
        exact hcollected.isClosed

end Closed

/-! ## Over an entity -/

section Entities

variable {schema : Schema} {entity : Entity} {ignoreCase : Bool} {filters : Mapping}
  {definition : Definition} {base : Statement} {done : List Present} {progress : Progress}

/-- What builds leave behind: progress that leads, and a subquery for some present operators of the
definition if these have no fault. -/
structure Progress.Left (schema : Schema) (entity : Entity) (ignoreCase : Bool) (filters : Mapping)
    (definition : Definition) (progress : Progress) : Prop where
  leads : progress.Leads schema entity
  holding : Present.checkAll schema entity ignoreCase (present filters definition.fields) = .ok () →
    ∃ earlier, relatedOnly earlier ⊆ present filters definition.fields ∧
      Holding schema entity ignoreCase earlier progress

/-- Before the first build. -/
lemma Progress.Left.start (schema : Schema) (entity : Entity) (ignoreCase : Bool)
    (filters : Mapping) (definition : Definition) :
    Progress.start.Left schema entity ignoreCase filters definition :=
  ⟨.start schema entity, fun _ => ⟨[], List.nil_subset _, .nothing rfl⟩⟩

/-- The operators on related rows are the only ones that progress holds something of. -/
lemma relatedOnly_relatedOnly (all : List Present) :
    rootOnly (relatedOnly all) = [] ∧ relatedOnly (relatedOnly all) = relatedOnly all := by
  simp [rootOnly, relatedOnly]

/-- Progress is where a build over a new base goes on from. -/
lemma Holding.built (h : Holding schema entity ignoreCase done progress) (base : Statement) :
    Built schema entity ignoreCase base (relatedOnly done) base { progress with events := [] } := by
  obtain ⟨hroot, hrelated⟩ := relatedOnly_relatedOnly done
  refine ⟨⟨[], by simp, by rw [hroot]; exact .nil⟩, ?_⟩
  cases h with
  | nothing hnone => exact .nothing (hrelated.trans hnone)
  | subquery hsome hcollected => exact .subquery (by rwa [hrelated]) (by rwa [hrelated])

/-- What a build without a fault does to progress that builds have left behind. -/
lemma build_of_left (h : progress.Left schema entity ignoreCase filters definition)
    (hroot : base.root = .entity entity)
    (hcheck : Present.checkAll schema entity ignoreCase (present filters definition.fields) =
      .ok ()) :
    ∃ all statement after,
      all ⊆ present filters definition.fields ∧ present filters definition.fields ⊆ all ∧
      Built schema entity ignoreCase base all statement after ∧
      (build ⟨schema, .mapping filters, ignoreCase⟩ definition base).run
          { progress with events := [] } =
        (((withRelated statement after.related).orderBy definition.ordering).mapError .scope,
          after) := by
  obtain ⟨earlier, hsub, hholding⟩ := h.holding hcheck
  obtain ⟨statement, after, hbuilt, hrun⟩ :=
    build_run_of_built definition hroot (hholding.built base) hcheck
  exact ⟨_, statement, after, List.append_subset.mpr ⟨hsub, List.Subset.refl _⟩,
    List.subset_append_right _ _, hbuilt, hrun⟩

/-- **One build** leaves behind what builds leave behind, whether it fails or not. -/
lemma build_keeps_left (h : progress.Left schema entity ignoreCase filters definition)
    (hroot : base.root = .entity entity) :
    ((build ⟨schema, .mapping filters, ignoreCase⟩ definition base).run
      { progress with events := [] }).2.Left schema entity ignoreCase filters definition where
  leads := (build_comesOutAs definition hroot _ (h.leads.report _ _)).1
  holding := by
    intro hcheck
    obtain ⟨all, statement, after, hsub, -, hbuilt, hrun⟩ := build_of_left h hroot hcheck
    rw [hrun]
    have hfewer : relatedOnly all ⊆ all := List.filter_subset_self _
    exact ⟨all, List.Subset.trans hfewer hsub, hbuilt.holding⟩

/-- What an ordering makes of a statement that differs from its base in the conditions. -/
lemma eq_of_orderBy {conditions : List Condition} {clauses : List OrderClause} {result : Statement}
    (hresult : ({ base with conditions := conditions }.orderBy clauses).mapError BuildFault.scope =
      .ok result) :
    ∃ order, base.orderBy clauses = .ok { base with order := order } ∧
      result = { base with conditions := conditions, order := order } := by
  rw [mapError_eq_ok, Statement.orderBy_conditions] at hresult
  cases hordered : base.orderBy clauses with
  | error fault =>
      rw [hordered] at hresult
      cases hresult
  | ok ordered =>
      rw [hordered] at hresult
      obtain ⟨order, rfl⟩ := Statement.order_of_orderBy hordered
      exact ⟨order, rfl, (Except.ok.inj hresult).symm⟩

/-- **Two builds** over one base, each from something that builds have left behind, come to the same
but for conditions that mean the same. -/
lemma results_of_left {progress' : Progress} {one other : Statement}
    (h : progress.Left schema entity ignoreCase filters definition)
    (h' : progress'.Left schema entity ignoreCase filters definition)
    (hroot : base.root = .entity entity)
    (hone : ((build ⟨schema, .mapping filters, ignoreCase⟩ definition base).run
      { progress with events := [] }).1 = .ok one)
    (hother : ((build ⟨schema, .mapping filters, ignoreCase⟩ definition base).run
      { progress' with events := [] }).1 = .ok other) :
    (∃ conditions, one = { other with conditions := conditions }) ∧
    (∀ database : Database, database.schema = schema → base.Over entity →
      one.SameRows database other) ∧
    ∀ condition ∈ one.conditions, condition ∈ base.conditions ∨ condition.IsClosed entity := by
  have hcheck := checkAll_of_build hroot (h.leads.report [] progress.fresh) hone
  obtain ⟨all, statement, after, hsub, hsup, hbuilt, hrun⟩ := build_of_left h hroot hcheck
  obtain ⟨all', statement', after', hsub', hsup', hbuilt', hrun'⟩ := build_of_left h' hroot hcheck
  have hclosed := hbuilt.isClosed
  obtain ⟨conditions, hframe⟩ := hbuilt.frame
  obtain ⟨conditions', hframe'⟩ := hbuilt'.frame
  rw [hrun, hframe] at hone
  rw [hrun', hframe'] at hother
  obtain ⟨order, hordered, rfl⟩ := eq_of_orderBy hone
  obtain ⟨order', hordered', rfl⟩ := eq_of_orderBy hother
  obtain rfl : order = order' := by
    rw [hordered] at hordered'
    exact congrArg Statement.order (Except.ok.inj hordered')
  refine ⟨⟨conditions, rfl⟩, ?_, ?_⟩
  · rintro database rfl hover
    obtain ⟨found, hfound, hconditions⟩ := hbuilt.conditionsOf hover
    obtain ⟨found', hfound', hconditions'⟩ := hbuilt'.conditionsOf hover
    obtain rfl : conditions = found := congrArg Statement.conditions (hframe.symm.trans hfound)
    obtain rfl : conditions' = found' := congrArg Statement.conditions (hframe'.symm.trans hfound')
    exact (sameRows_of_conditionsOf order hconditions' hconditions (List.Subset.trans hsub' hsup)
      (List.Subset.trans hsub hsup') :)
  · rw [hframe] at hclosed
    exact hclosed

end Entities

/-! ## Other roots -/

/-- A build that does nothing but report. -/
def OnlyReports {α : Type} (x : Build α) : Prop :=
  ∀ progress : Progress, ∃ result events, x.run progress = (result, { progress with events := events })

namespace OnlyReports

variable {α β : Type}

lemma of_pure (a : α) : OnlyReports (pure a) := fun progress => ⟨_, progress.events, rfl⟩

lemma of_get : OnlyReports (get : Build Progress) := fun progress => ⟨_, progress.events, rfl⟩

lemma of_liftExcept (result : Except BuildFault α) : OnlyReports (liftExcept result) :=
  fun progress => ⟨result, progress.events, Build.run_liftExcept result progress⟩

/-- One after the other. -/
lemma bind {x : Build α} {f : α → Build β} (h : OnlyReports x) (hf : ∀ a, OnlyReports (f a)) :
    OnlyReports (x >>= f) := by
  intro progress
  obtain ⟨result, events, hx⟩ := h progress
  rw [Build.run_bind, hx]
  cases result with
  | ok a => exact hf a { progress with events := events }
  | error fault => exact ⟨_, _, rfl⟩

/-- One after the other over a list, by induction on it. -/
lemma foldlM {f : β → α → Build β} (h : ∀ b a, OnlyReports (f b a)) (list : List α) (b : β) :
    OnlyReports (list.foldlM f b) := by
  induction list generalizing b with
  | nil => exact of_pure b
  | cons a rest ih =>
      rw [List.foldlM_cons]
      exact (h b a).bind fun next => ih next

end OnlyReports

section OtherRoots

variable {schema : Schema} {ignoreCase : Bool} {filters : Mapping} {definition : Definition}
  {base : Statement}

/-- An operator over something that is no entity is skipped, or it fails. -/
lemma applyOperator_onlyReports {root : Root} (hroot : ∀ entity, root ≠ .entity entity)
    (field : FieldFilter) (declared : Value × String) (statement : Statement) :
    OnlyReports (applyOperator ⟨schema, .mapping filters, ignoreCase⟩ root field declared
      statement) := by
  intro progress
  cases hpresent : field.present? filters declared with
  | none => exact ⟨_, _, applyOperator_of_absent root statement progress hpresent⟩
  | some present =>
      obtain ⟨fault, events, hrun⟩ :=
        applyOperator_of_not_entity schema ignoreCase hroot hpresent statement progress
      exact ⟨_, _, hrun⟩

/-- **A build over another root** does nothing but report. -/
theorem build_onlyReports (hroot : ∀ entity, base.root ≠ .entity entity) :
    OnlyReports (build ⟨schema, .mapping filters, ignoreCase⟩ definition base) := by
  intro progress
  by_cases hnone : base.root = .none
  · refine ⟨.error .noEntity, progress.events, ?_⟩
    simp only [build, hnone, Build.run_throw]
  · rw [build_of_root hnone]
    have hfields : OnlyReports (applyFields ⟨schema, .mapping filters, ignoreCase⟩ base.root
        definition.fields base) :=
      .foldlM (fun statement field =>
        .foldlM (fun statement declared => applyOperator_onlyReports hroot field declared statement)
          field.operators statement) definition.fields base
    exact hfields.bind (fun filtered => OnlyReports.of_get.bind fun reached => .of_liftExcept _)
      progress

end OtherRoots

/-! ## Any number of builds -/

namespace Builder

/-- The builder after it has built on some bases, whatever came of it. -/
def after (builder : Builder) (bases : List Statement) : Builder :=
  bases.foldl (fun builder base => (builder.build base).2.2) builder

/-- What every build keeps is so after any number of them, by induction on how many there are. -/
lemma after_keeps (builder : Builder) {bases : List Statement} {P : Progress → Prop}
    (hstart : P builder.progress)
    (hstep : ∀ base ∈ bases, ∀ progress, P progress →
      P ((FilterQuery.build builder.context builder.definition base).run
        { progress with events := [] }).2) :
    ∃ progress, builder.after bases = { builder with progress := progress } ∧ P progress := by
  induction bases generalizing builder with
  | nil => exact ⟨builder.progress, rfl, hstart⟩
  | cons base rest ih =>
      have hfirst := hstep base List.mem_cons_self builder.progress hstart
      exact ih (builder.build base).2.2 hfirst fun next hnext =>
        hstep next (List.mem_cons_of_mem base hnext)

end Builder

section Builders

variable {schema : Schema} {settings : Settings} {definition : Definition} {filters : Mapping}
  {fresh : Builder} {bases : List Statement} {base : Statement}

/-- What a builder over an entity has left behind. -/
lemma left_of_after {entity : Entity}
    (hfresh : fresh = Builder.new schema settings definition (.mapping filters))
    (hroot : ∀ earlier ∈ bases, earlier.root = .entity entity) :
    ∃ progress, fresh.after bases = { fresh with progress := progress } ∧
      progress.Left schema entity settings.ignoreCase filters definition := by
  subst hfresh
  exact Builder.after_keeps _ (.start schema entity settings.ignoreCase filters definition)
    fun earlier hearlier _ hleft => build_keeps_left hleft (hroot earlier hearlier)

/-- Over another root it has left nothing behind but reports. -/
lemma silent_of_after (hfresh : fresh = Builder.new schema settings definition (.mapping filters))
    (hroot : ∀ earlier ∈ bases, ∀ entity, earlier.root ≠ .entity entity) :
    ∃ progress, fresh.after bases = { fresh with progress := progress } ∧
      progress.silent = Progress.start.silent := by
  subst hfresh
  refine Builder.after_keeps _ rfl fun earlier hearlier progress hsilent => ?_
  have hreports : OnlyReports
      (build ⟨schema, .mapping filters, settings.ignoreCase⟩ definition earlier) :=
    build_onlyReports (hroot earlier hearlier)
  obtain ⟨result, events, hrun⟩ := hreports { progress with events := [] }
  exact (congrArg (fun reached => reached.2.silent) hrun).trans hsilent

/-- **A builder can be used again.**  After any number of builds over the same root, failed ones among
them, a builder fails on a base exactly as a new builder does, with the same fault.  What it builds
otherwise is what a new builder builds, in the same order, but for the conditions; it gives the same
rows in every database.  Whatever it has added to the base is closed: no alias is spoken of that is
not joined. -/
theorem build_after_builds
    (hfresh : fresh = Builder.new schema settings definition (.mapping filters))
    (hbases : ∀ earlier ∈ bases, earlier.root = base.root) :
    (∀ fault, ((fresh.after bases).build base).1 = .error fault ↔
      (fresh.build base).1 = .error fault) ∧
    ∀ one other, ((fresh.after bases).build base).1 = .ok one → (fresh.build base).1 = .ok other →
      (∃ conditions, one = { other with conditions := conditions }) ∧
      ((∀ entity, base.root = .entity entity → base.Over entity) →
        ∀ database : Database, database.schema = schema → one.SameRows database other) ∧
      ∀ condition ∈ one.conditions, condition ∈ base.conditions ∨
        ∃ entity, base.root = .entity entity ∧ condition.IsClosed entity := by
  by_cases hentity : ∃ entity, base.root = .entity entity
  · obtain ⟨entity, hroot⟩ := hentity
    obtain ⟨progress, hafter, hleft⟩ := left_of_after hfresh fun earlier hearlier =>
      (hbases earlier hearlier).trans hroot
    rw [hafter]
    subst hfresh
    have hstart := Progress.Left.start schema entity settings.ignoreCase filters definition
    refine ⟨fun fault => ?_, fun one other hone hother => ?_⟩
    · have hfails : ComesOutAs schema entity
          (buildCheck schema entity settings.ignoreCase filters definition) _
          (build ⟨schema, .mapping filters, settings.ignoreCase⟩ definition base) :=
        build_comesOutAs definition hroot
      exact (hfails.error_iff (hleft.leads.report [] progress.fresh) fault).trans
        (hfails.error_iff hstart.leads fault).symm
    · obtain ⟨hframe, hfetch, hclosed⟩ := results_of_left hleft hstart hroot hone hother
      exact ⟨hframe, fun hover database hschema => hfetch database hschema (hover entity hroot),
        fun condition hcondition => (hclosed condition hcondition).imp_right fun hclosed =>
          ⟨entity, hroot, hclosed⟩⟩
  · -- nothing but reports was left behind, and no build reads them
    have hroot := not_exists.mp hentity
    obtain ⟨progress, hafter, hsilent⟩ := silent_of_after hfresh fun earlier hearlier =>
      hbases earlier hearlier ▸ hroot
    have hsame : ((fresh.after bases).build base).1 = (fresh.build base).1 := by
      rw [hafter]
      subst hfresh
      exact (alike_build base rfl rfl { progress with events := [] } .start hsilent).1
    rw [hsame]
    refine ⟨fun fault => Iff.rfl, fun one other hone hother => ?_⟩
    obtain rfl := Except.ok.inj (hone.symm.trans hother)
    refine ⟨⟨one.conditions, rfl⟩, fun _ database _ => .refl database one,
      fun condition hcondition => Or.inl ?_⟩
    subst hfresh
    obtain ⟨hsome, hnothing⟩ := nothing_of_build hroot hone
    obtain ⟨order, -, rfl⟩ := eq_of_orderBy ((build_of_nothing hsome hnothing).symm.trans hone)
    exact hcondition

end Builders

namespace Sample

/-- A builder for posts by who has commented on them. -/
def byCommenter : Builder :=
  .new schema .default ⟨[⟨["comments", "author", "name"], [(.op .equalTo, "who")]⟩], []⟩
    (.mapping commentFilters)

/-- One for a path that breaks behind relationships that are joined by then. -/
def byNowhere : Builder :=
  .new schema .default ⟨[⟨["comments", "author", "nowhere", "name"], [(.op .equalTo, "who")]⟩], []⟩
    (.mapping commentFilters)

end Sample

/-- A builder finds the same posts the third time, and with a broken path it fails again with the
same fault. -/
theorem build_after_builds_posts :
    (∃ one, ((Sample.byCommenter.after [Sample.allPosts, Sample.allPosts]).build
        Sample.allPosts).1 = .ok one ∧
      one.fetch Sample.database =
        .ok [[.record ⟨"Post", [.int 1]⟩], [.record ⟨"Post", [.int 3]⟩]]) ∧
    ((Sample.byNowhere.after [Sample.allPosts, Sample.allPosts]).build Sample.allPosts).1 =
      .error (.invalidPath "comments.author.nowhere.name" (.notRelationship "nowhere" "Author")) := by
  have hroots : ∀ earlier ∈ [Sample.allPosts, Sample.allPosts],
      earlier.root = Sample.allPosts.root := by
    simp
  constructor
  · have hrows : (Sample.byCommenter.build Sample.allPosts).1.map
        (Statement.fetch Sample.database) =
          .ok (.ok [[.record ⟨"Post", [.int 1]⟩], [.record ⟨"Post", [.int 3]⟩]]) := by
      decide +kernel
    obtain ⟨hfaults, hresults⟩ := build_after_builds
      (show Sample.byCommenter = .new Sample.schema .default _ _ from rfl) hroots
    cases hother : (Sample.byCommenter.build Sample.allPosts).1 with
    | error fault =>
        rw [hother] at hrows
        cases hrows
    | ok other =>
        rw [hother] at hrows
        cases hone : ((Sample.byCommenter.after [Sample.allPosts, Sample.allPosts]).build
            Sample.allPosts).1 with
        | error fault =>
            rw [hfaults, hother] at hone
            cases hone
        | ok one =>
            have hsame := (hresults one other hone hother).2.1 Sample.allPosts_base Sample.database rfl
            exact ⟨one, rfl, (hsame.fetch _).mpr (Except.ok.inj hrows)⟩
  · have hfault : (Sample.byNowhere.build Sample.allPosts).1 = .error
        (.invalidPath "comments.author.nowhere.name" (.notRelationship "nowhere" "Author")) := rfl
    exact ((build_after_builds rfl hroots).1 _).mpr hfault

end FilterQuery
