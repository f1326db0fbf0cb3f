import Mathlib.Tactic.Common
import FilterQuery.Proofs.Built

/-!
# Whole builds

What a build comes to after all of its operators.

**Over an entity.**  `applyTurns_endsAs` goes through all operators by induction: a run ends in a
statement and progress of which holds what each operator keeps, or in the first fault among the present
ones; `Built` is kept.  `build_run` and `build_fault` say so of a whole build.

**Other roots.**  `build_of_nothing` and `nothing_of_build`: over anything else a build succeeds
exactly if no operator is present, and then it gives back its base.
-/

namespace FilterQuery

open FilterQuery.Sql

/-! ## Over an entity -/

/-- A run ends as a check says: in a statement and progress of which `post` holds, or in the fault
that the check found. -/
def EndsAs (check : Except BuildFault Unit) (post : Statement → Progress → Prop)
    (run : Except BuildFault Statement × Progress) : Prop :=
  match check with
  | .ok () => ∃ next after, run = (.ok next, after) ∧ post next after
  | .error fault => ∃ after, run = (.error fault, after)

/-- One run after the other. -/
lemma EndsAs.bind {check more : Except BuildFault Unit} {post post' : Statement → Progress → Prop}
    {x : Build Statement} {f : Statement → Build Statement} {progress : Progress}
    (h : EndsAs check post (x.run progress))
    (h' : ∀ next after, post next after → EndsAs more post' ((f next).run after)) :
    EndsAs (check.bind fun _ => more) post' ((x >>= f).run progress) := by
  rw [Build.run_bind]
  cases check with
  | ok _ =>
      obtain ⟨next, after, hrun, hpost⟩ := h
      rw [hrun]
      exact h' next after hpost
  | error fault =>
      obtain ⟨after, hrun⟩ := h
      rw [hrun]
      exact ⟨after, rfl⟩

section Runs

variable {schema : Schema} {entity : Entity} {ignoreCase : Bool} {filters : Mapping}
  {base statement : Statement} {done : List Present} {progress : Progress}

/-- What is known of the end of a run may be put in another way. -/
lemma EndsAs.imp {check : Except BuildFault Unit} {post post' : Statement → Progress → Prop}
    {run : Except BuildFault Statement × Progress} (h : EndsAs check post run)
    (himp : check = .ok () → ∀ next after, run = (.ok next, after) → post next after →
      post' next after) : EndsAs check post' run := by
  cases check with
  | ok _ =>
      obtain ⟨next, after, hrun, hpost⟩ := h
      exact ⟨next, after, hrun, himp rfl next after hrun hpost⟩
  | error fault => exact h

/-- A run that ends well has met no fault. -/
lemma EndsAs.of_ok {check : Except BuildFault Unit} {post : Statement → Progress → Prop}
    {next : Statement} {after : Progress} (h : EndsAs check post (.ok next, after)) :
    check = .ok () ∧ post next after := by
  cases check with
  | ok _ =>
      obtain ⟨_, _, hrun, hpost⟩ := h
      cases hrun
      exact ⟨rfl, hpost⟩
  | error fault =>
      obtain ⟨_, hrun⟩ := h
      cases hrun

/-- One operator, whether it counts or not. -/
lemma Turn.apply_run (turn : Turn)
    (h : Built schema entity ignoreCase base done statement progress) :
    EndsAs (Present.checkAll schema entity ignoreCase (turn.present? filters).toList)
      (Built schema entity ignoreCase base (done ++ (turn.present? filters).toList))
      ((turn.apply ⟨schema, .mapping filters, ignoreCase⟩ (.entity entity) statement).run
        progress) := by
  cases hpresent : turn.present? filters with
  | none =>
      rw [Option.toList_none, List.append_nil]
      exact ⟨_, _, applyOperator_of_absent _ _ _ hpresent, h.report _⟩
  | some present =>
      rw [Option.toList_some, Present.checkAll]
      cases htest : present.test schema entity ignoreCase with
      | ok test => exact applyOperator_of_test h hpresent htest
      | error fault => exact applyOperator_of_fault h hpresent htest

/-- **All operators**, by induction on how many have their turns: what each of them keeps holds in the
end, and the first fault among the present ones is the fault of the run. -/
theorem applyTurns_endsAs {invariant : List Present → Statement → Progress → Prop}
    (hstep : ∀ (turn : Turn) done statement progress, invariant done statement progress →
      EndsAs (Present.checkAll schema entity ignoreCase (turn.present? filters).toList)
        (invariant (done ++ (turn.present? filters).toList))
        ((turn.apply ⟨schema, .mapping filters, ignoreCase⟩ (.entity entity) statement).run
          progress))
    (turns : List Turn) (h : invariant done statement progress) :
    EndsAs (Present.checkAll schema entity ignoreCase (turns.filterMap (Turn.present? filters)))
      (invariant (done ++ turns.filterMap (Turn.present? filters)))
      ((applyTurns ⟨schema, .mapping filters, ignoreCase⟩ (.entity entity) turns statement).run
        progress) := by
  induction turns generalizing done statement progress with
  | nil =>
      rw [List.filterMap_nil, List.append_nil]
      exact ⟨statement, progress, rfl, h⟩
  | cons turn rest ih =>
      rw [filterMap_present?_cons, Present.checkAll_append, ← List.append_assoc, applyTurns,
        List.foldlM_cons]
      exact (hstep turn done statement progress h).bind fun next after hnext => ih hnext

/-- All fields: the conditions are those of the present operators. -/
theorem applyFields_run (filters : Mapping) (fields : List FieldFilter)
    (h : Built schema entity ignoreCase base done statement progress) :
    EndsAs (Present.checkAll schema entity ignoreCase (present filters fields))
      (Built schema entity ignoreCase base (done ++ present filters fields))
      ((applyFields ⟨schema, .mapping filters, ignoreCase⟩ (.entity entity) fields
        statement).run progress) := by
  rw [applyFields_eq_applyTurns, present_eq_filterMap_turns]
  exact applyTurns_endsAs (fun turn _ _ _ => turn.apply_run) (turns fields) h

/-- Before anything is applied. -/
lemma Built.begin (schema : Schema) (entity : Entity) (ignoreCase : Bool) (base : Statement) :
    Built schema entity ignoreCase base [] base .start where
  conditions := ⟨[], by simp, .nil⟩
  holding := .nothing rfl

/-- Nothing of the base changes but its conditions. -/
lemma Built.frame (h : Built schema entity ignoreCase base done statement progress) :
    ∃ conditions, withRelated statement progress.related =
      { base with conditions := conditions } := by
  obtain ⟨added, rfl, -⟩ := h.conditions
  cases progress.related with
  | none => exact ⟨_, rfl⟩
  | some related => exact ⟨_, rfl⟩

/-- A build over an entity applies all operators, and then orders. -/
lemma run_build {context : BuildContext} (definition : Definition)
    (hroot : base.root = .entity entity) (progress : Progress) :
    (build context definition base).run progress =
      match (applyFields context (.entity entity) definition.fields base).run progress with
      | (.ok statement, after) =>
        (((withRelated statement after.related).orderBy definition.ordering).mapError .scope, after)
      | (.error fault, after) => (.error fault, after) := by
  have hsome : base.root ≠ .none := by simp [hroot]
  rw [build_of_root hsome, hroot, Build.run_bind]
  cases (applyFields context (.entity entity) definition.fields base).run progress with
  | mk result after =>
      cases result with
      | error fault => rfl
      | ok statement => simp only [Build.run_bind, Build.run_get, Build.run_liftExcept]

/-- **A whole build** that meets no fault, whatever was collected before it: what it ends in is as
`Built` says, and what is left to do is the ordering. -/
theorem build_run_of_built (definition : Definition) (hroot : base.root = .entity entity)
    (h : Built schema entity ignoreCase base done base progress)
    (hcheck : Present.checkAll schema entity ignoreCase (present filters definition.fields) =
      .ok ()) :
    ∃ statement after,
      Built schema entity ignoreCase base (done ++ present filters definition.fields) statement
        after ∧
      (build ⟨schema, .mapping filters, ignoreCase⟩ definition base).run progress =
        (((withRelated statement after.related).orderBy definition.ordering).mapError .scope,
          after) := by
  have hrun := applyFields_run filters definition.fields h
  rw [hcheck] at hrun
  obtain ⟨statement, after, hrun, hbuilt⟩ := hrun
  refine ⟨statement, after, hbuilt, ?_⟩
  rw [run_build definition hroot, hrun]

/-- A build from the start: its conditions are those of the present operators. -/
theorem build_run (definition : Definition) (hroot : base.root = .entity entity)
    (hcheck : Present.checkAll schema entity ignoreCase (present filters definition.fields) =
      .ok ()) :
    ∃ statement progress,
      Built schema entity ignoreCase base (present filters definition.fields) statement progress ∧
      (buildFresh ⟨schema, .mapping filters, ignoreCase⟩ definition base).1 =
        ((withRelated statement progress.related).orderBy definition.ordering).mapError .scope := by
  obtain ⟨statement, after, hbuilt, hrun⟩ :=
    build_run_of_built definition hroot (Built.begin schema entity ignoreCase base) hcheck
  exact ⟨statement, after, hbuilt, congrArg Prod.fst hrun⟩

/-- **A whole build** that meets a fault fails with it. -/
theorem build_fault (definition : Definition) (hroot : base.root = .entity entity)
    {fault : BuildFault}
    (hcheck : Present.checkAll schema entity ignoreCase (present filters definition.fields) =
      .error fault) :
    (buildFresh ⟨schema, .mapping filters, ignoreCase⟩ definition base).1 = .error fault := by
  have hrun := applyFields_run filters definition.fields
    (Built.begin schema entity ignoreCase base)
  rw [hcheck] at hrun
  obtain ⟨progress, hrun⟩ := hrun
  rw [buildFresh, run_build definition hroot, hrun]

end Runs

/-! ## Roots that are no entity

An alias, or a class that no table stores, has no columns to put a condition on.  A build over it
succeeds only if nothing is present, and then it adds nothing.
-/

section OtherRoots

variable {schema : Schema} {ignoreCase : Bool} {filters : Mapping} {root : Root}

/-- Where nothing is present, nothing happens, whatever the root is. -/
lemma applyOperators_of_nothing (field : FieldFilter) {operators : List (Value × String)}
    (h : operators.filterMap (field.present? filters) = []) (statement : Statement)
    (progress : Progress) :
    ∃ events, (operators.foldlM (fun statement declared =>
        applyOperator ⟨schema, .mapping filters, ignoreCase⟩ root field declared statement)
      statement).run progress = (.ok statement, { progress with events := events }) := by
  induction operators generalizing progress with
  | nil => exact ⟨progress.events, rfl⟩
  | cons declared rest ih =>
      cases hpresent : field.present? filters declared with
      | some present => simp [hpresent] at h
      | none =>
          obtain ⟨events, hrun⟩ := ih (by simpa [hpresent] using h)
            { progress with events := progress.events ++ [.skipped field.name declared.2] }
          refine ⟨events, ?_⟩
          rw [List.foldlM_cons, Build.run_bind, applyOperator_of_absent _ _ _ hpresent]
          exact hrun

lemma applyFields_of_nothing {fields : List FieldFilter} (h : present filters fields = [])
    (statement : Statement) (progress : Progress) :
    ∃ events, (applyFields ⟨schema, .mapping filters, ignoreCase⟩ root fields statement).run
      progress = (.ok statement, { progress with events := events }) := by
  induction fields generalizing progress with
  | nil => exact ⟨progress.events, rfl⟩
  | cons field rest ih =>
      have hsplit : present filters (field :: rest) =
          field.operators.filterMap (field.present? filters) ++ present filters rest := rfl
      obtain ⟨hfield, hrest⟩ := List.append_eq_nil_iff.mp (hsplit ▸ h)
      obtain ⟨events, hrun⟩ := applyOperators_of_nothing field hfield statement progress
      obtain ⟨events', hrun'⟩ := ih hrest { progress with events := events }
      refine ⟨events', ?_⟩
      rw [applyFields, List.foldlM_cons, Build.run_bind, applyField, hrun]
      exact hrun'

/-- A path over something else leads nowhere, and at most that is reported. -/
lemma rootColumn_of_not_entity (hroot : ∀ entity, root ≠ .entity entity) (field : FieldFilter)
    (progress : Progress) :
    ∃ fault events, (rootColumn root field).run progress =
      (.error fault, { progress with events := events }) := by
  cases root with
  | entity entity => exact absurd rfl (hroot entity)
  | aliased entity => exact ⟨_, _, rfl⟩
  | unmapped name written => exact ⟨_, _, rfl⟩
  | none => exact ⟨_, _, rfl⟩

lemma relatedColumn_of_not_entity (context : BuildContext) (hroot : ∀ entity, root ≠ .entity entity)
    (field : FieldFilter) (progress : Progress) :
    ∃ fault events, (relatedColumn context root field).run progress =
      (.error fault, { progress with events := events }) := by
  obtain ⟨tracker, related, fresh, events⟩ := progress
  cases root with
  | entity entity => exact absurd rfl (hroot entity)
  | aliased entity => cases related <;> exact ⟨_, _, rfl⟩
  | unmapped name written => cases related <;> exact ⟨_, _, rfl⟩
  | none => cases related <;> exact ⟨_, _, rfl⟩

/-- A present operator ends the build. -/
lemma applyOperator_of_not_entity (schema : Schema) (ignoreCase : Bool)
    (hroot : ∀ entity, root ≠ .entity entity) {field : FieldFilter} {declared : Value × String}
    {present : Present} (hpresent : field.present? filters declared = some present)
    (statement : Statement) (progress : Progress) :
    ∃ fault events, (applyOperator ⟨schema, .mapping filters, ignoreCase⟩ root field declared
      statement).run progress = (.error fault, { progress with events := events }) := by
  obtain ⟨value, hfind, rfl⟩ := present?_eq_some.mp hpresent
  cases hoperator : operatorOf? declared.1 with
  | none => exact ⟨_, _, applyOperator_of_unknown root statement progress hfind hoperator⟩
  | some operator =>
      by_cases hlength : field.path.length = 1
      · obtain ⟨fault, events, hcolumn⟩ := rootColumn_of_not_entity hroot field progress
        refine ⟨fault, events, ?_⟩
        rw [applyOperator_root _ _ _ hfind hoperator hlength, Build.run_bind, hcolumn]
      · obtain ⟨fault, events, hcolumn⟩ := relatedColumn_of_not_entity
          ⟨schema, .mapping filters, ignoreCase⟩ hroot field progress
        refine ⟨fault, events, ?_⟩
        rw [applyOperator_related _ _ _ hfind hoperator hlength, Build.run_bind, hcolumn]

/-- A run that does not fail has met no present operator. -/
lemma nothing_of_applyOperators (hroot : ∀ entity, root ≠ .entity entity) (field : FieldFilter)
    {operators : List (Value × String)} {statement next : Statement} {progress after : Progress}
    (hrun : (operators.foldlM (fun statement declared =>
        applyOperator ⟨schema, .mapping filters, ignoreCase⟩ root field declared statement)
      statement).run progress = (.ok next, after)) :
    operators.filterMap (field.present? filters) = [] := by
  induction operators generalizing statement progress with
  | nil => rfl
  | cons declared rest ih =>
      rw [List.foldlM_cons, Build.run_bind] at hrun
      cases hpresent : field.present? filters declared with
      | none =>
          rw [applyOperator_of_absent _ _ _ hpresent] at hrun
          rw [List.filterMap_cons_none hpresent]
          exact ih hrun
      | some present =>
          obtain ⟨fault, failed, hfail⟩ :=
            applyOperator_of_not_entity schema ignoreCase hroot hpresent statement progress
          rw [hfail] at hrun
          cases hrun

lemma nothing_of_applyFields (hroot : ∀ entity, root ≠ .entity entity) {fields : List FieldFilter}
    {statement next : Statement} {progress after : Progress}
    (hrun : (applyFields ⟨schema, .mapping filters, ignoreCase⟩ root fields statement).run
      progress = (.ok next, after)) : present filters fields = [] := by
  induction fields generalizing statement progress with
  | nil => rfl
  | cons field rest ih =>
      have hsplit : present filters (field :: rest) =
          field.operators.filterMap (field.present? filters) ++ present filters rest := rfl
      rw [applyFields, List.foldlM_cons, Build.run_bind] at hrun
      cases hfield : (applyField ⟨schema, .mapping filters, ignoreCase⟩ root statement field).run
          progress with
      | mk result reached =>
          rw [hfield] at hrun
          cases result with
          | error fault => cases hrun
          | ok middle =>
              rw [hsplit, nothing_of_applyOperators hroot field hfield, ih hrun, List.append_nil]

/-- **Nothing present.**  A build over any root without present operators only orders. -/
theorem build_of_nothing {definition : Definition} {base : Statement} (hroot : base.root ≠ .none)
    (hnothing : present filters definition.fields = []) :
    (buildFresh ⟨schema, .mapping filters, ignoreCase⟩ definition base).1 =
      (base.orderBy definition.ordering).mapError .scope := by
  obtain ⟨events, hrun⟩ : ∃ events, (applyFields ⟨schema, .mapping filters, ignoreCase⟩ base.root
      definition.fields base).run .start = (.ok base, { Progress.start with events := events }) :=
    applyFields_of_nothing hnothing base .start
  simp only [buildFresh, build_of_root hroot, Build.run_bind, hrun, Build.run_get,
    Build.run_liftExcept]
  rfl

/-- **Other roots.**  A build over something else that does not fail has met no present operator. -/
theorem nothing_of_build {definition : Definition} {base result : Statement}
    (hentity : ∀ entity, base.root ≠ .entity entity)
    (hbuild : (buildFresh ⟨schema, .mapping filters, ignoreCase⟩ definition base).1 = .ok result) :
    base.root ≠ .none ∧ present filters definition.fields = [] := by
  have hroot : base.root ≠ .none := by
    intro hnone
    simp [buildFresh, build, hnone] at hbuild
  refine ⟨hroot, ?_⟩
  simp only [buildFresh, build_of_root hroot, Build.run_bind] at hbuild
  cases hfields : (applyFields ⟨schema, .mapping filters, ignoreCase⟩ base.root
      definition.fields base).run .start with
  | mk outcome reached =>
      rw [hfields] at hbuild
      cases outcome with
      | error fault => cases hbuild
      | ok filtered => exact nothing_of_applyFields hentity hfields

end OtherRoots

end FilterQuery
