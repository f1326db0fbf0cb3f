import Mathlib.Tactic.Common
import FilterQuery.Proofs.Progress

/-!
# The faults of any build

Which fault a build meets depends on where its paths lead, and not on what has been joined.  This holds
from any progress that builds leave behind, also where a path broke off and prefixes are tracked whose
joins are lost.

**Progress.**  `Progress.Leads` is all that this takes: a tracked prefix stands for the entity that it
leads to, and the subquery is one over the root entity.

**Checks.**  `ComesOutAs` ties a build to a check that knows no progress: the build has the fault that
the check finds, or it gives something that answers to what the check gives, and progress leads as
before either way.  It is closed under everything that builds are made of.

**Builds.**  `build_comesOutAs`: from any progress that leads, a build over the entity fails exactly as
a new one does.
-/

namespace FilterQuery

open FilterQuery.Sql

/-! ## Progress -/

/-- Whatever is tracked stands for the entity that its prefix leads to, and the subquery is one over
the root entity.  Nothing is said of joins. -/
structure Progress.Leads (schema : Schema) (entity : Entity) (progress : Progress) : Prop where
  tracked : ∀ behind segment known, progress.tracker.alias? (behind ++ [segment]) = some known →
    schema.reach entity (behind ++ [segment]) = .ok known.entity
  related : ∀ related, progress.related = some related → related.entity = entity

namespace Progress.Leads

variable {schema : Schema} {entity : Entity} {progress : Progress}

/-- Nothing is tracked at the start. -/
lemma start (schema : Schema) (entity : Entity) : Progress.start.Leads schema entity where
  tracked := by
    intro behind segment known hknown
    simp [Progress.start, JoinTracker.alias?] at hknown
  related := by
    intro related hrelated
    simp [Progress.start] at hrelated

/-- What was reported makes no difference, and nor does the number of the next alias. -/
lemma report (h : progress.Leads schema entity) (events : List Event) (fresh : Nat) :
    { progress with events := events, fresh := fresh }.Leads schema entity :=
  ⟨h.tracked, h.related⟩

/-- One more prefix is tracked under an alias of the entity that it leads to. -/
lemma track (h : progress.Leads schema entity) {path : FieldPath} (known : Alias)
    (hreach : schema.reach entity path = .ok known.entity) :
    { progress with tracker := progress.tracker.add path known }.Leads schema entity where
  tracked := by
    intro behind segment found hfound
    by_cases hother : behind ++ [segment] = path
    · subst hother
      have hsame : known = found := by
        simpa [JoinTracker.alias?_add_self] using hfound
      exact hsame ▸ hreach
    · have hold : progress.tracker.alias? (behind ++ [segment]) = some found := by
        simpa [JoinTracker.alias?_add_of_ne _ _ hother] using hfound
      exact h.tracked behind segment found hold
  related := h.related

/-- Another subquery over the same entity. -/
lemma hold (h : progress.Leads schema entity) {related : Related} (hrelated : related.entity = entity) :
    { progress with related := some related }.Leads schema entity where
  tracked := h.tracked
  related := by
    intro other hother
    have hsame : related = other := by simpa using hother
    exact hsame ▸ hrelated

end Progress.Leads

/-! ## Checks -/

/-- A build comes out as a check does, whatever progress it goes on from: with the fault that the check
finds, or with something that answers to what the check gives.  Progress leads as before either way. -/
def ComesOutAs {α β : Type} (schema : Schema) (entity : Entity) (check : Except BuildFault β)
    (post : β → α → Prop) (x : Build α) : Prop :=
  ∀ progress : Progress, progress.Leads schema entity →
    (x.run progress).2.Leads schema entity ∧
      match check with
      | .ok b => ∃ a, (x.run progress).1 = .ok a ∧ post b a
      | .error fault => (x.run progress).1 = .error fault

namespace ComesOutAs

variable {α β γ δ : Type} {schema : Schema} {entity : Entity} {check : Except BuildFault β}
  {post : β → α → Prop} {x : Build α}

lemma of_pure {a : α} {b : β} (h : post b a) :
    ComesOutAs schema entity (.ok b) post (pure a) :=
  fun _ hleads => ⟨hleads, a, rfl, h⟩

lemma of_throw (fault : BuildFault) : ComesOutAs schema entity (.error fault) post (throw fault) :=
  fun _ hleads => ⟨hleads, rfl⟩

/-- Progress may be changed, as long as it leads. -/
lemma of_modify {f : Progress → Progress}
    (h : ∀ progress : Progress, progress.Leads schema entity → (f progress).Leads schema entity) :
    ComesOutAs schema entity (.ok ()) (fun _ _ => True) (modify f : Build PUnit) :=
  fun progress hleads => ⟨h progress hleads, ⟨⟩, rfl, trivial⟩

lemma of_report (event : Event) :
    ComesOutAs schema entity (.ok ()) (fun _ _ => True) (report event) :=
  of_modify fun _ hleads => hleads.report _ _

lemma of_breakPath (field : FieldFilter) (cause : PathBreak) :
    ComesOutAs schema entity (.error (.invalidPath field.name cause)) post (breakPath field cause) := by
  intro progress hleads
  rw [run_breakPath]
  exact ⟨hleads.report _ _, rfl⟩

/-- One after the other. -/
lemma bind {f : α → Build γ} {more : β → Except BuildFault δ} {post' : δ → γ → Prop}
    (h : ComesOutAs schema entity check post x)
    (hf : ∀ b a, post b a → ComesOutAs schema entity (more b) post' (f a)) :
    ComesOutAs schema entity (check.bind more) post' (x >>= f) := by
  intro progress hleads
  obtain ⟨hafter, hresult⟩ := h progress hleads
  rw [Build.run_bind]
  rcases hx : x.run progress with ⟨result, after⟩
  rw [hx] at hafter hresult
  cases check with
  | ok b =>
      obtain ⟨a, rfl, hpost⟩ := hresult
      exact hf b a hpost after hafter
  | error fault =>
      obtain rfl : result = .error fault := hresult
      exact ⟨hafter, rfl⟩

/-- What cannot fail may come first. -/
lemma after {f : α → Build γ} {more : Except BuildFault δ} {found : Unit → α → Prop}
    {post' : δ → γ → Prop} (h : ComesOutAs schema entity (.ok ()) found x)
    (hf : ∀ a, found () a → ComesOutAs schema entity more post' (f a)) :
    ComesOutAs schema entity more post' (x >>= f) := by
  show ComesOutAs schema entity ((Except.ok ()).bind fun _ => more) post' (x >>= f)
  exact h.bind fun _ a hpost => hf a hpost

/-- Progress may be looked at. -/
lemma of_get {f : Progress → Build α}
    (h : ∀ progress : Progress, progress.Leads schema entity →
      ComesOutAs schema entity check post (f progress)) :
    ComesOutAs schema entity check post (get >>= f) :=
  fun progress hleads => h progress hleads progress hleads

/-- A build fails exactly as its check does. -/
lemma error_iff (h : ComesOutAs schema entity check post x) {progress : Progress}
    (hleads : progress.Leads schema entity) (fault : BuildFault) :
    (x.run progress).1 = .error fault ↔ check = .error fault := by
  obtain ⟨-, hresult⟩ := h progress hleads
  cases check with
  | ok b =>
      obtain ⟨a, ha, -⟩ := hresult
      simp [ha]
  | error found => simp [show (x.run progress).1 = .error found from hresult]

end ComesOutAs

/-! ## Paths -/

section Paths

variable {context : BuildContext} {entity : Entity}

/-- The column at the end of a path. -/
lemma columnOf_comesOutAs (schema : Schema) (field : FieldFilter) (reached : Entity)
    (source : Source) :
    ComesOutAs schema entity
      (match reached.column? (field.path.getLast?.getD "") with
        | some column => .ok column
        | none => .error (.invalidPath field.name
          (.notColumn (field.path.getLast?.getD "") reached.name)))
      (fun column ref => ∃ source, ref = ColumnRef.ofColumn source column)
      (columnOf field reached source) := by
  rw [columnOf]
  cases reached.column? (field.path.getLast?.getD "") with
  | some column => exact .of_pure ⟨source, rfl⟩
  | none => exact .of_breakPath field _

/-- The subquery, begun or not. -/
lemma relatedScope_comesOutAs (schema : Schema) (entity : Entity) :
    ComesOutAs schema entity (.ok ()) (fun _ related => related.entity = entity)
      (relatedScope (.entity entity)) := by
  intro progress hleads
  cases hrelated : progress.related with
  | some related =>
      have hrun : (relatedScope (.entity entity)).run progress = (.ok related, progress) := by
        simp only [relatedScope, Build.run_bind, Build.run_get, hrelated, Build.run_pure]
      rw [hrun]
      exact ⟨hleads, related, rfl, hleads.related related hrelated⟩
  | none =>
      let source : Source := ⟨entity.table, .related progress.fresh⟩
      have hrun : (relatedScope (.entity entity)).run progress =
          (.ok (Related.start entity source), { progress with
            fresh := progress.fresh + 1, related := some (Related.start entity source) }) := by
        simp only [relatedScope, Build.run_bind, Build.run_get, hrelated, run_newAlias,
          Build.run_modify, Build.run_pure]
        rfl
      rw [hrun]
      exact ⟨(hleads.report progress.events (progress.fresh + 1)).hold rfl, _, rfl, rfl⟩

/-- Where a walk stands as far as faults go: the alias is one of the entity that the path leads to. -/
structure Reached.IsAt (reached : Reached) (target root : Entity) : Prop where
  stands : reached.entity = target
  here : reached.here.entity = target
  related : reached.related.entity = root

/-- **One step.**  Whether a relationship is entered does not depend on whether its prefix is
tracked. -/
lemma enter_comesOutAs (field : FieldFilter) {behind : FieldPath} {holder : Entity}
    {reached : Reached} (segment : String)
    (hreach : context.schema.reach entity behind = .ok holder)
    (hat : reached.IsAt holder entity) :
    ComesOutAs context.schema entity
      (match context.schema.step? holder segment with
        | some (_, target) => .ok target
        | none => .error (.invalidPath field.name (.notRelationship segment holder.name)))
      (fun target next => context.schema.reach entity (behind ++ [segment]) = .ok target ∧
        next.IsAt target entity)
      (enter context field (behind ++ [segment]) segment reached) := by
  obtain ⟨rfl, hhere, hrelated⟩ := hat
  intro progress hleads
  cases hstep : context.schema.step? reached.entity segment with
  | none =>
      rw [enter_of_break hstep]
      exact ⟨hleads.report _ _, rfl⟩
  | some found =>
      obtain ⟨relationship, target⟩ := found
      have htarget : context.schema.reach entity (behind ++ [segment]) = .ok target :=
        Schema.reach_concat_eq_ok.mpr ⟨_, _, hreach, hstep⟩
      cases hknown : progress.tracker.alias? (behind ++ [segment]) with
      | some known =>
          have hsame : known.entity = target := by
            have hknown := hleads.tracked behind segment known hknown
            rw [htarget] at hknown
            exact (Except.ok.inj hknown).symm
          rw [enter_of_known hstep hknown]
          exact ⟨hleads, _, rfl, htarget, rfl, hsame, hrelated⟩
      | none =>
          have htracked := hleads.track
            (entered relationship.linkage target progress.fresh) htarget
          rw [enter_of_new hhere hstep hknown]
          exact ⟨htracked.report _ _, _, rfl, htarget, rfl, rfl, hrelated⟩

/-- **A path**, by induction on its segments. -/
lemma walk_comesOutAs (field : FieldFilter) (rest : List String) {behind : FieldPath}
    {holder : Entity} {reached : Reached}
    (hreach : context.schema.reach entity behind = .ok holder)
    (hat : reached.IsAt holder entity) :
    ComesOutAs context.schema entity
      ((context.schema.reach holder rest).mapError (.invalidPath field.name))
      (fun target next => next.IsAt target entity) (walk context field behind rest reached) := by
  induction rest generalizing behind holder reached with
  | nil => exact .of_pure hat
  | cons segment rest ih =>
      have hsplit : (context.schema.reach holder (segment :: rest)).mapError
          (.invalidPath field.name) =
            (match context.schema.step? holder segment with
              | some (_, target) => .ok target
              | none => .error (.invalidPath field.name (.notRelationship segment holder.name)) :
              Except BuildFault Entity).bind fun target =>
                (context.schema.reach target rest).mapError (.invalidPath field.name) := by
        rw [Schema.reach]
        cases context.schema.step? holder segment with
        | none => rfl
        | some found => rfl
      rw [hsplit, walk]
      refine (enter_comesOutAs field segment hreach hat).bind ?_
      rintro target next ⟨htarget, hnext⟩
      exact ih htarget hnext

/-- The column of a path over relationships. -/
lemma relatedColumn_comesOutAs (context : BuildContext) (field : FieldFilter) :
    ComesOutAs context.schema entity
      ((context.schema.columnAt entity field.path).mapError (.invalidPath field.name))
      (fun column ref => ∃ source, ref = ColumnRef.ofColumn source column)
      (relatedColumn context (.entity entity) field) := by
  have hsplit : (context.schema.columnAt entity field.path).mapError (.invalidPath field.name) =
      ((context.schema.reach entity field.path.dropLast).mapError
        (BuildFault.invalidPath field.name)).bind fun target =>
          match target.column? (field.path.getLast?.getD "") with
          | some column => .ok column
          | none => .error (.invalidPath field.name
            (.notColumn (field.path.getLast?.getD "") target.name)) := by
    rw [Schema.columnAt]
    cases context.schema.reach entity field.path.dropLast with
    | error cause => rfl
    | ok target =>
        dsimp only [Except.mapError, Except.bind]
        cases target.column? (field.path.getLast?.getD "") <;> rfl
  rw [hsplit]
  refine (relatedScope_comesOutAs context.schema entity).after fun related hrelated => ?_
  have hstart : Reached.IsAt ⟨related, ⟨related.root, related.entity⟩, entity⟩ entity entity :=
    ⟨rfl, hrelated, hrelated⟩
  refine (walk_comesOutAs field field.path.dropLast Schema.reach_nil hstart).bind
    fun target reached hat => ?_
  obtain ⟨rfl, -, hroot⟩ := hat
  exact (ComesOutAs.of_modify fun progress hleads => hleads.hold hroot).after fun _ _ =>
    columnOf_comesOutAs context.schema field reached.entity reached.here.source

/-- The column of a path of one segment. -/
lemma rootColumn_comesOutAs (schema : Schema) {field : FieldFilter} (hroot : field.path.length = 1) :
    ComesOutAs schema entity
      ((schema.columnAt entity field.path).mapError (.invalidPath field.name))
      (fun column ref => ∃ source, ref = ColumnRef.ofColumn source column)
      (rootColumn (.entity entity) field) := by
  have hcolumn : ComesOutAs schema entity _ _ (columnOf field entity (.ofTable entity.table)) :=
    columnOf_comesOutAs schema field entity (.ofTable entity.table)
  rw [Schema.columnAt_of_length_one hroot]
  cases hfound : entity.column? (field.path.getLast?.getD "") with
  | some column =>
      rw [hfound] at hcolumn
      exact hcolumn
  | none =>
      rw [hfound] at hcolumn
      exact hcolumn

end Paths

/-! ## Builds -/

section Builds

variable {schema : Schema} {entity : Entity} {ignoreCase : Bool} {filters : Mapping}

/-- An operator takes a value on a column exactly if it does wherever the column is. -/
lemma predicate_comesOutAs (operator : Operator) (value : Value) {column : Column} {ref : ColumnRef}
    (href : ∃ source, ref = ColumnRef.ofColumn source column) :
    ComesOutAs schema entity
      ((operator.predicate column value ignoreCase).mapError BuildFault.operand)
      (fun _ _ => True)
      (liftExcept ((operator.predicate ref value ignoreCase).mapError BuildFault.operand)) := by
  obtain ⟨source, rfl⟩ := href
  rw [Operator.predicate_map]
  cases operator.predicate column value ignoreCase with
  | ok test => exact .of_pure trivial
  | error refusal => exact .of_throw _

/-- A condition of the subquery leaves its entity alone. -/
lemma addRelated_comesOutAs (predicate : Predicate ColumnRef) :
    ComesOutAs schema entity (.ok ()) (fun _ _ => True) (addRelated predicate) := by
  refine .of_modify fun progress hleads => ⟨hleads.tracked, fun related hrelated => ?_⟩
  obtain ⟨held, hheld, rfl⟩ := Option.map_eq_some_iff.mp hrelated
  exact hleads.related held hheld

/-- What is checked of a present operator, once the operator is known. -/
lemma Present.checkAll_singleton {present : Present} {operator : Operator}
    (hoperator : operatorOf? present.declared = some operator) :
    Present.checkAll schema entity ignoreCase [present] =
      ((schema.columnAt entity present.path).mapError
        (BuildFault.invalidPath (FieldPath.dotted present.path))).bind fun column =>
          ((operator.predicate column present.value ignoreCase).mapError .operand).bind
            fun _ => .ok () := by
  rw [Present.checkAll, Present.test, hoperator]
  cases schema.columnAt entity present.path with
  | error cause => rfl
  | ok column =>
      dsimp only [Except.mapError, Except.bind]
      cases operator.predicate column present.value ignoreCase <;> rfl

/-- A present operator is applied exactly if there is a condition for it. -/
lemma applyOperator_comesOutAs_of_present (field : FieldFilter) {declared : Value × String}
    {present : Present} (hpresent : field.present? filters declared = some present)
    (statement : Statement) :
    ComesOutAs schema entity (Present.checkAll schema entity ignoreCase [present])
      (fun _ _ => True)
      (applyOperator ⟨schema, .mapping filters, ignoreCase⟩ (.entity entity) field declared
        statement) := by
  obtain ⟨value, hfind, rfl⟩ := present?_eq_some.mp hpresent
  intro progress hleads
  cases hoperator : operatorOf? declared.1 with
  | none =>
      rw [applyOperator_of_unknown _ _ _ hfind hoperator, Present.checkAll, Present.test, hoperator]
      exact ⟨hleads.report _ _, rfl⟩
  | some operator =>
      rw [Present.checkAll_singleton hoperator]
      by_cases hroot : field.path.length = 1
      · rw [applyOperator_root _ _ _ hfind hoperator hroot]
        refine (rootColumn_comesOutAs schema hroot).bind (fun column ref href => ?_) progress hleads
        refine (predicate_comesOutAs operator value href).bind fun _ predicate _ => ?_
        exact (ComesOutAs.of_report _).after fun _ _ => .of_pure trivial
      · rw [applyOperator_related _ _ _ hfind hoperator hroot]
        refine (relatedColumn_comesOutAs ⟨schema, .mapping filters, ignoreCase⟩ field).bind
          (fun column ref href => ?_) progress hleads
        refine (predicate_comesOutAs operator value href).bind fun _ predicate _ => ?_
        refine (addRelated_comesOutAs predicate).after fun _ _ => ?_
        exact (ComesOutAs.of_report _).after fun _ _ => .of_pure trivial

/-- One operator, whether it counts or not. -/
lemma applyOperator_comesOutAs (field : FieldFilter) (declared : Value × String)
    (statement : Statement) :
    ComesOutAs schema entity
      (Present.checkAll schema entity ignoreCase (field.present? filters declared).toList)
      (fun _ _ => True)
      (applyOperator ⟨schema, .mapping filters, ignoreCase⟩ (.entity entity) field declared
        statement) := by
  cases hpresent : field.present? filters declared with
  | none =>
      intro progress hleads
      rw [applyOperator_of_absent _ _ _ hpresent]
      exact ⟨hleads.report _ _, statement, rfl, trivial⟩
  | some present => exact applyOperator_comesOutAs_of_present field hpresent statement

/-- A fold whose steps check one part of a list each, by induction on the steps. -/
lemma ComesOutAs.foldlM {σ : Type} {parts : σ → List Present}
    {step : Statement → σ → Build Statement}
    (h : ∀ next statement, ComesOutAs schema entity
      (Present.checkAll schema entity ignoreCase (parts next)) (fun _ _ => True)
      (step statement next)) (steps : List σ) (statement : Statement) :
    ComesOutAs schema entity (Present.checkAll schema entity ignoreCase (steps.flatMap parts))
      (fun _ _ => True) (steps.foldlM step statement) := by
  induction steps generalizing statement with
  | nil => exact .of_pure trivial
  | cons next rest ih =>
      rw [List.flatMap_cons, Present.checkAll_append, List.foldlM_cons]
      exact (h next statement).bind fun _ reached _ => ih reached

/-- All fields: the first fault among the present operators. -/
lemma applyFields_comesOutAs (fields : List FieldFilter) (statement : Statement) :
    ComesOutAs schema entity
      (Present.checkAll schema entity ignoreCase (present filters fields)) (fun _ _ => True)
      (applyFields ⟨schema, .mapping filters, ignoreCase⟩ (.entity entity) fields statement) := by
  refine ComesOutAs.foldlM (fun field statement => ?_) fields statement
  rw [List.filterMap_eq_flatMap_toList]
  exact ComesOutAs.foldlM (applyOperator_comesOutAs field) field.operators statement

/-- Whether something can be ordered is up to the clauses. -/
lemma orderBy_comesOutAs (statement : Statement) (clauses : List OrderClause) :
    ComesOutAs schema entity ((clauses.mapM OrderClause.term).mapError BuildFault.scope)
      (fun _ _ => True)
      (liftExcept ((statement.orderBy clauses).mapError BuildFault.scope)) := by
  rw [Statement.orderBy]
  cases clauses.mapM OrderClause.term with
  | error fault => exact .of_throw _
  | ok terms =>
      simp only [bind, Except.bind, pure, Except.pure]
      split <;> exact .of_pure trivial

/-- What a build over an entity fails with, if it does: the first fault among the present operators,
else that of the ordering. -/
def buildCheck (schema : Schema) (entity : Entity) (ignoreCase : Bool) (filters : Mapping)
    (definition : Definition) : Except BuildFault (List OrderTerm) :=
  (Present.checkAll schema entity ignoreCase (present filters definition.fields)).bind fun _ =>
    (definition.ordering.mapM OrderClause.term).mapError .scope

/-- **A build** over an entity fails exactly as its check does, whatever was built before. -/
theorem build_comesOutAs (definition : Definition) {base : Statement}
    (hroot : base.root = .entity entity) :
    ComesOutAs schema entity (buildCheck schema entity ignoreCase filters definition)
      (fun _ _ => True) (build ⟨schema, .mapping filters, ignoreCase⟩ definition base) := by
  have hsome : base.root ≠ .none := by simp [hroot]
  intro progress hleads
  rw [build_of_root hsome, hroot]
  refine (applyFields_comesOutAs definition.fields base).bind (fun _ filtered _ => ?_) progress hleads
  exact .of_get fun reached _ => orderBy_comesOutAs _ definition.ordering

/-- A build that does not fail has met no fault among the present operators. -/
lemma checkAll_of_build {definition : Definition} {base result : Statement} {progress : Progress}
    (hroot : base.root = .entity entity) (hleads : progress.Leads schema entity)
    (hbuild : ((build ⟨schema, .mapping filters, ignoreCase⟩ definition base).run progress).1 =
      .ok result) :
    Present.checkAll schema entity ignoreCase (present filters definition.fields) = .ok () := by
  cases hcheck : Present.checkAll schema entity ignoreCase (present filters definition.fields) with
  | ok found => rfl
  | error fault =>
      have hfails : buildCheck schema entity ignoreCase filters definition = .error fault := by
        rw [buildCheck, hcheck]
        rfl
      rw [← (build_comesOutAs definition hroot).error_iff hleads fault, hbuild] at hfails
      cases hfails

end Builds

end FilterQuery
