import Mathlib.Data.List.Forall2
import Mathlib.Data.List.Perm.Basic
import Mathlib.Data.List.TakeWhile
import Mathlib.Tactic.Common
import FilterQuery.Proofs.FilterKeys
import FilterQuery.Proofs.Rejected
import FilterQuery.Proofs.Turns

/-!
# What a build reports

The events of a build, put together from what is told of each operator.

**Operators that have their turns.**  `passedTurns` are the operators before the first fault,
`reachedTurns` these and the one that has it.

**The log.**  `logOf` tells of one operator after the other, given the present ones before it; what is
told of one is `Turn.told`.  `applyTurns_gains`: this is what a build reports, and what it tracks are
the prefixes of which it tells.

**What can be read off it.**  Verdicts, relationships and errors are three ways to filter a log.
`log_of_build` puts them together.
-/

namespace FilterQuery

open FilterQuery.Sql

/-! ## Operators that have their turns -/

section Log

variable (schema : Schema) (entity : Entity) (ignoreCase : Bool) (filters : Mapping)

/-- Whether an operator has no fault: it does not count, or there is a condition for it. -/
def Turn.isFine (turn : Turn) : Bool :=
  (turn.present? filters).all fun present => (present.test schema entity ignoreCase).isOk

/-- The operators before the first fault. -/
def passedTurns (turns : List Turn) : List Turn :=
  turns.takeWhile (Turn.isFine schema entity ignoreCase filters)

/-- The operators up to the first fault. -/
def reachedTurns (turns : List Turn) : List Turn :=
  passedTurns schema entity ignoreCase filters turns ++
    (turns.dropWhile (Turn.isFine schema entity ignoreCase filters)).head?.toList

/-! ## The log -/

/-- What is reported of operators one after the other, given the present ones before them. -/
def logOf : List Present → List Turn → List Event
  | _, [] => []
  | done, turn :: rest =>
    turn.told schema entity ignoreCase filters (turn.firsts schema entity filters done) ++
      logOf (done ++ (turn.present? filters).toList) rest

/-- The prefixes that are entered with operators one after the other. -/
def enteredOf : List Present → List Turn → List FieldPath
  | _, [] => []
  | done, turn :: rest =>
    turn.firsts schema entity filters done ++
      enteredOf (done ++ (turn.present? filters).toList) rest

end Log

section Runs

variable {schema : Schema} {entity : Entity} {ignoreCase : Bool} {filters : Mapping}
  {base statement : Statement} {done : List Present} {progress : Progress}

/-- Without a fault is what passes its check. -/
lemma Turn.isFine_iff {turn : Turn} :
    turn.isFine schema entity ignoreCase filters ↔
      Present.checkAll schema entity ignoreCase (turn.present? filters).toList = .ok () := by
  rw [Turn.isFine]
  cases turn.present? filters with
  | none => simp [Present.checkAll]
  | some present =>
      rw [Option.toList_some, Present.checkAll, Option.all_some]
      cases present.test schema entity ignoreCase with
      | ok test => simp [Present.checkAll, Except.isOk, Except.toBool]
      | error fault => simp [Except.isOk, Except.toBool]

/-- An operator that is not without a fault counts, and there is no condition for it. -/
lemma Turn.exists_fault {turn : Turn} (h : ¬turn.isFine schema entity ignoreCase filters) :
    ∃ present fault, turn.present? filters = some present ∧
      present.test schema entity ignoreCase = .error fault := by
  rw [Turn.isFine] at h
  cases hpresent : turn.present? filters with
  | none => simp [hpresent] at h
  | some present =>
      rw [hpresent, Option.all_some] at h
      cases htest : present.test schema entity ignoreCase with
      | ok test =>
          rw [htest] at h
          exact absurd rfl h
      | error fault => exact ⟨present, fault, rfl, htest⟩

lemma reachedTurns_cons_of_fine {turn : Turn} {rest : List Turn}
    (h : turn.isFine schema entity ignoreCase filters) :
    reachedTurns schema entity ignoreCase filters (turn :: rest) =
      turn :: reachedTurns schema entity ignoreCase filters rest := by
  simp [reachedTurns, passedTurns, h]

lemma reachedTurns_cons_of_fault {turn : Turn} {rest : List Turn}
    (h : ¬turn.isFine schema entity ignoreCase filters) :
    reachedTurns schema entity ignoreCase filters (turn :: rest) = [turn] := by
  simp [reachedTurns, passedTurns, h]

lemma isFine_of_mem_passedTurns {turns : List Turn} {turn : Turn}
    (h : turn ∈ passedTurns schema entity ignoreCase filters turns) :
    turn.isFine schema entity ignoreCase filters :=
  List.mem_takeWhile_imp h

/-- Where all operators are without a fault there is none among the present ones, and the other way
round. -/
lemma checkAll_eq_ok_iff {turns : List Turn} :
    Present.checkAll schema entity ignoreCase (turns.filterMap (Turn.present? filters)) = .ok () ↔
      ∀ turn ∈ turns, turn.isFine schema entity ignoreCase filters := by
  induction turns with
  | nil => simp [Present.checkAll]
  | cons turn rest ih =>
      rw [filterMap_present?_cons, Present.checkAll_append, List.forall_mem_cons, ← ih,
        Turn.isFine_iff]
      cases Present.checkAll schema entity ignoreCase (turn.present? filters).toList with
      | ok _ => simp [Except.bind]
      | error fault => simp [Except.bind]

/-- **The log of a run**, by induction on the operators that have their turns: a fault ends it. -/
theorem applyTurns_gains (filters : Mapping) (turns : List Turn)
    (h : Tracks schema entity ignoreCase base done statement progress) :
    Gains progress
      ((applyTurns ⟨schema, .mapping filters, ignoreCase⟩ (.entity entity) turns statement).run
        progress).2
      (enteredOf schema entity filters done (reachedTurns schema entity ignoreCase filters turns))
      (logOf schema entity ignoreCase filters done
        (reachedTurns schema entity ignoreCase filters turns)) := by
  induction turns generalizing done statement progress with
  | nil => exact Gains.nothing progress
  | cons turn rest ih =>
      have hgains := turn.apply_gains filters h
      have hends := turn.apply_tracks filters h
      rw [applyTurns, List.foldlM_cons, Build.run_bind]
      by_cases hfine : turn.isFine schema entity ignoreCase filters
      · rw [Turn.isFine_iff.mp hfine] at hends
        obtain ⟨next, after, hrun, htracks⟩ := hends
        rw [hrun] at hgains ⊢
        rw [reachedTurns_cons_of_fine hfine]
        exact hgains.trans (ih htracks)
      · cases hcheck : Present.checkAll schema entity ignoreCase (turn.present? filters).toList with
        | ok _ => exact absurd (Turn.isFine_iff.mpr hcheck) hfine
        | error fault =>
            rw [hcheck] at hends
            obtain ⟨after, hrun⟩ := hends
            rw [hrun] at hgains ⊢
            rw [reachedTurns_cons_of_fault hfine, enteredOf, logOf, enteredOf, logOf,
              List.append_nil, List.append_nil]
            exact hgains

end Runs

/-! ## What can be read off it -/

namespace Event

/-- An operator was skipped or applied. -/
def isVerdict : Event → Bool
  | skipped .. => true
  | applied .. => true
  | _ => false

/-- The condition of an operator was added. -/
def isApplied : Event → Bool
  | applied .. => true
  | _ => false

/-- A relationship was entered for the first time. -/
def isJoined : Event → Bool
  | joined .. => true
  | _ => false

/-- The errors of builds. -/
lemma exists_of_level_error {event : Event} (h : event.level = .error) :
    (∃ message field key, event = .unknownOperator message field key) ∨
      ∃ field reason, event = .invalidPath field reason := by
  cases event with
  | unknownOperator message field key => exact .inl ⟨message, field, key, rfl⟩
  | invalidPath field reason => exact .inr ⟨field, reason, rfl⟩
  | _ => cases h

end Event

/-- The verdict on an operator without a fault: it is skipped if it does not count, and else applied. -/
def Turn.Concludes (filters : Mapping) (turn : Turn) (event : Event) : Prop :=
  match turn.present? filters with
  | none => event = .skipped turn.field.name turn.declared.2
  | some _ => ∃ operator, operatorOf? turn.declared.1 = some operator ∧
      event = .applied turn.field.name operator turn.declared.2

/-- An event says that the operator of a predicate was applied. -/
def Event.TellsOf (schema : Schema) (entity : Entity) (ignoreCase : Bool) (filters : Mapping)
    (turns : List Turn) (event : Event) (predicate : Predicate ColumnRef) : Prop :=
  ∃ turn ∈ turns, turn.Concludes filters event ∧ ∃ present, turn.present? filters = some present ∧
    IsConditionOf schema entity ignoreCase present predicate

/-- A fault is told as an error: an unknown operator, or a path that breaks off. -/
def BuildFault.IsTold (fault : BuildFault) : Prop :=
  fault.report.kind = ErrorClass.unknownOperator.name ∨
    fault.report.kind = ErrorClass.invalidFieldPath.name

/-- Operators end in a fault that is told as an error. -/
def EndsTold (schema : Schema) (entity : Entity) (ignoreCase : Bool) (filters : Mapping)
    (turns : List Turn) : Prop :=
  ∃ fault, Present.checkAll schema entity ignoreCase (turns.filterMap (Turn.present? filters)) =
    .error fault ∧ fault.IsTold

section Readings

variable {schema : Schema} {entity : Entity} {ignoreCase : Bool} {filters : Mapping}

/-- What is told of an operator are the relationships that are entered with it, and then one thing at
most. -/
lemma Turn.told_eq (turn : Turn) (done : List Present) :
    turn.told schema entity ignoreCase filters (turn.firsts schema entity filters done) =
      (turn.firsts schema entity filters done).map (joinedEvent turn.field) ++
        turn.told schema entity ignoreCase filters [] := by
  rw [Turn.told, Turn.told, Turn.firsts, Turn.route]
  cases turn.present? filters with
  | none => rfl
  | some present =>
      cases operatorOf? turn.declared.1 with
      | none => rfl
      | some operator => rfl

/-- The verdict on an operator without a fault. -/
lemma Turn.told_of_fine {turn : Turn} (h : turn.isFine schema entity ignoreCase filters) :
    ∃ event, turn.told schema entity ignoreCase filters [] = [event] ∧
      turn.Concludes filters event := by
  rw [Turn.isFine] at h
  rw [Turn.told]
  simp only [Turn.Concludes]
  cases hpresent : turn.present? filters with
  | none => exact ⟨_, rfl, rfl⟩
  | some present =>
      rw [hpresent, Option.all_some] at h
      cases htest : present.test schema entity ignoreCase with
      | error fault =>
          rw [htest] at h
          cases h
      | ok test =>
          obtain ⟨value, -, rfl⟩ := present?_eq_some.mp hpresent
          obtain ⟨operator, -, hoperator, -⟩ := Present.test_eq_ok.mp htest
          refine ⟨.applied turn.field.name operator turn.declared.2, ?_, operator, hoperator, rfl⟩
          simp only [hoperator, htest]
          rfl

/-- Of a fault that is told as an error nothing else is told, and nothing is told of any other. -/
lemma Turn.told_of_fault {turn : Turn} {present : Present} {fault : BuildFault}
    (hpresent : turn.present? filters = some present)
    (htest : present.test schema entity ignoreCase = .error fault) :
    (fault.IsTold ∧ ∃ event, turn.told schema entity ignoreCase filters [] = [event] ∧
      event.level = .error) ∨
    (¬fault.IsTold ∧ turn.told schema entity ignoreCase filters [] = []) := by
  obtain ⟨value, -, rfl⟩ := present?_eq_some.mp hpresent
  rw [Turn.told, hpresent]
  simp only [htest]
  rw [Present.test] at htest
  cases hoperator : operatorOf? turn.declared.1 with
  | none =>
      simp only [hoperator] at htest
      cases htest
      exact .inl ⟨.inl rfl, _, rfl, rfl⟩
  | some operator =>
      simp only [hoperator] at htest
      cases hcolumn : schema.columnAt entity turn.field.path with
      | error cause =>
          simp only [hcolumn] at htest
          cases htest
          exact .inl ⟨.inr rfl, _, rfl, rfl⟩
      | ok column =>
          simp only [hcolumn] at htest
          cases hpredicate : operator.predicate column value ignoreCase with
          | ok test =>
              rw [hpredicate] at htest
              cases htest
          | error refusal =>
              rw [hpredicate] at htest
              cases htest
              refine .inr ⟨?_, rfl⟩
              rw [BuildFault.IsTold]
              cases refusal <;> decide

/-- Nothing of it is a relationship. -/
lemma Turn.not_isJoined_of_told {turn : Turn} :
    ∀ event ∈ turn.told schema entity ignoreCase filters [], ¬event.isJoined := by
  rw [Turn.told]
  cases turn.present? filters with
  | none => simp [Event.isJoined]
  | some present =>
      cases operatorOf? turn.declared.1 with
      | none => simp [Event.isJoined]
      | some operator =>
          cases htest : present.test schema entity ignoreCase with
          | ok test => simp [htest, Event.isJoined]
          | error fault => cases fault <;> simp [htest, Event.isJoined]

/-- A verdict is one, it is no relationship, and no error. -/
lemma Turn.Concludes.isVerdict {turn : Turn} {event : Event} (h : turn.Concludes filters event) :
    event.isVerdict ∧ event.level ≠ .error := by
  rw [Turn.Concludes] at h
  cases hpresent : turn.present? filters with
  | none =>
      rw [hpresent] at h
      obtain rfl : event = _ := h
      simp [Event.isVerdict, Event.level]
  | some present =>
      rw [hpresent] at h
      obtain ⟨operator, -, rfl⟩ := h
      simp [Event.isVerdict, Event.level]

/-- An operator is applied exactly if it counts. -/
lemma Turn.Concludes.isApplied {turn : Turn} {event : Event} (h : turn.Concludes filters event) :
    event.isApplied = (turn.present? filters).isSome := by
  rw [Turn.Concludes] at h
  cases hpresent : turn.present? filters with
  | none =>
      rw [hpresent] at h
      obtain rfl : event = _ := h
      rfl
  | some present =>
      rw [hpresent] at h
      obtain ⟨operator, -, rfl⟩ := h
      rfl

/-- Relationships are nothing else. -/
lemma filter_joined {isOther : Event → Bool} (h : ∀ field path, isOther (.joined field path) = false)
    (field : FieldFilter) (paths : List FieldPath) :
    (paths.map (joinedEvent field)).filter isOther = [] := by
  rw [List.filter_eq_nil_iff]
  simp [joinedEvent, h]

/-- **Verdicts.**  There is one on each operator without a fault, in order. -/
lemma forall₂_concludes {turns : List Turn}
    (hfine : ∀ turn ∈ turns, turn.isFine schema entity ignoreCase filters) (done : List Present) :
    List.Forall₂ (Turn.Concludes filters) turns
      ((logOf schema entity ignoreCase filters done turns).filter Event.isVerdict) := by
  induction turns generalizing done with
  | nil => exact .nil
  | cons turn rest ih =>
      obtain ⟨hturn, hrest⟩ := List.forall_mem_cons.mp hfine
      obtain ⟨event, htold, hconcludes⟩ := Turn.told_of_fine hturn
      rw [logOf, Turn.told_eq, htold, List.filter_append, List.filter_append,
        filter_joined (fun _ _ => rfl), List.nil_append, List.filter_singleton,
        hconcludes.isVerdict.1]
      exact .cons hconcludes (ih hrest _)

/-- The operator with the fault adds no verdict. -/
lemma filter_logOf_reachedTurns {isOther : Event → Bool}
    (hjoined : ∀ field path, isOther (.joined field path) = false)
    (hunknown : ∀ message field key, isOther (.unknownOperator message field key) = false)
    (hbroken : ∀ field reason, isOther (.invalidPath field reason) = false) (turns : List Turn)
    (done : List Present) :
    (logOf schema entity ignoreCase filters done
        (reachedTurns schema entity ignoreCase filters turns)).filter isOther =
      (logOf schema entity ignoreCase filters done
        (passedTurns schema entity ignoreCase filters turns)).filter isOther := by
  induction turns generalizing done with
  | nil => rfl
  | cons turn rest ih =>
      by_cases hfine : turn.isFine schema entity ignoreCase filters
      · rw [reachedTurns_cons_of_fine hfine, passedTurns, List.takeWhile_cons_of_pos hfine, logOf,
          logOf, List.filter_append, List.filter_append, ih]
        rfl
      · rw [reachedTurns_cons_of_fault hfine, passedTurns, List.takeWhile_cons_of_neg hfine, logOf,
          logOf, logOf, List.append_nil, Turn.told_eq, List.filter_append, filter_joined hjoined,
          List.nil_append, List.filter_nil]
        obtain ⟨present, fault, hpresent, htest⟩ := Turn.exists_fault hfine
        rcases Turn.told_of_fault hpresent htest with ⟨-, event, htold, hlevel⟩ | ⟨-, htold⟩
        · have hother : isOther event = false := by
            obtain ⟨message, field, key, rfl⟩ | ⟨field, reason, rfl⟩ :=
              Event.exists_of_level_error hlevel
            · exact hunknown message field key
            · exact hbroken field reason
          rw [htold, List.filter_singleton, hother]
          rfl
        · rw [htold, List.filter_nil]

/-- **Applied operators.**  Each event of this kind tells of one condition, in order. -/
lemma forall₂_tellsOf {turns : List Turn} {added : List (Predicate ColumnRef)}
    (hfine : ∀ turn ∈ turns, turn.isFine schema entity ignoreCase filters) (done : List Present)
    (h : List.Forall₂ (IsConditionOf schema entity ignoreCase)
      (turns.filterMap (Turn.present? filters)) added) :
    List.Forall₂ (Event.TellsOf schema entity ignoreCase filters turns)
      ((logOf schema entity ignoreCase filters done turns).filter Event.isApplied) added := by
  induction turns generalizing done added with
  | nil => exact List.forall₂_nil_left_iff.mpr (List.forall₂_nil_left_iff.mp h)
  | cons turn rest ih =>
      obtain ⟨hturn, hrest⟩ := List.forall_mem_cons.mp hfine
      obtain ⟨event, htold, hconcludes⟩ := Turn.told_of_fine hturn
      have hmore : ∀ more, List.Forall₂ (IsConditionOf schema entity ignoreCase)
          (rest.filterMap (Turn.present? filters)) more →
          List.Forall₂ (Event.TellsOf schema entity ignoreCase filters (turn :: rest))
            ((logOf schema entity ignoreCase filters (done ++ (turn.present? filters).toList)
              rest).filter Event.isApplied) more := fun more hconditions =>
        (ih hrest _ hconditions).imp fun _ _ ⟨other, hother, htells⟩ =>
          ⟨other, List.mem_cons_of_mem _ hother, htells⟩
      rw [logOf, Turn.told_eq, htold, List.filter_append, List.filter_append,
        filter_joined (fun _ _ => rfl), List.nil_append, List.filter_singleton,
        hconcludes.isApplied]
      rw [filterMap_present?_cons] at h
      cases hpresent : turn.present? filters with
      | none =>
          rw [hpresent] at h hmore
          exact hmore added h
      | some present =>
          rw [hpresent] at h hmore
          cases h with
          | cons hfirst hconditions =>
              exact .cons ⟨turn, List.mem_cons_self, hconcludes, present, hpresent, hfirst⟩
                (hmore _ hconditions)

/-- **Relationships.**  There is an event for each prefix that is entered, in order, and it comes with
the first operator that has the prefix on its path. -/
lemma forall₂_joined (turns : List Turn) (done : List Present) :
    List.Forall₂ (fun path event => ∃ before turn after, turns = before ++ turn :: after ∧
        path ∈ turn.firsts schema entity filters
          (done ++ before.filterMap (Turn.present? filters)) ∧
        event = joinedEvent turn.field path)
      (enteredOf schema entity filters done turns)
      ((logOf schema entity ignoreCase filters done turns).filter Event.isJoined) := by
  induction turns generalizing done with
  | nil => exact .nil
  | cons turn rest ih =>
      have hjoined : ∀ paths : List FieldPath, (paths.map (joinedEvent turn.field)).filter
          Event.isJoined = paths.map (joinedEvent turn.field) := by
        intro paths
        rw [List.filter_eq_self]
        simp [joinedEvent, Event.isJoined]
      rw [enteredOf, logOf, Turn.told_eq, List.filter_append, List.filter_append, hjoined,
        List.filter_eq_nil_iff.mpr Turn.not_isJoined_of_told, List.append_nil]
      refine List.rel_append ?_ ((ih _).imp ?_)
      · rw [List.forall₂_map_right_iff, List.forall₂_same]
        exact fun path hpath => ⟨[], turn, rest, rfl, by simpa using hpath, rfl⟩
      · rintro path event ⟨before, next, after, rfl, hpath, hevent⟩
        refine ⟨turn :: before, next, after, rfl, ?_, hevent⟩
        rwa [filterMap_present?_cons, ← List.append_assoc]

/-- What is entered is on no path of an operator before. -/
lemma not_prefix_of_mem_enteredOf {turns : List Turn} {done : List Present} {path : FieldPath}
    (h : path ∈ enteredOf schema entity filters done turns) :
    ∀ earlier ∈ done, ¬path <+: earlier.behind := by
  induction turns generalizing done with
  | nil => cases h
  | cons turn rest ih =>
      rw [enteredOf, List.mem_append] at h
      rcases h with h | h
      · simpa using (List.mem_filter.mp h).2
      · exact fun earlier hearlier => ih h earlier (List.mem_append_left _ hearlier)

/-- No prefix is entered twice. -/
lemma nodup_enteredOf (turns : List Turn) (done : List Present) :
    (enteredOf schema entity filters done turns).Nodup := by
  induction turns generalizing done with
  | nil => exact List.nodup_nil
  | cons turn rest ih =>
      have hfirsts : (turn.firsts schema entity filters done).Nodup :=
        ((FieldPath.nodup_prefixes _).filter _).filter _
      refine hfirsts.append (ih _) fun path hfirst hlater => ?_
      have hroute := FieldPath.mem_prefixes.mp
        (List.mem_of_mem_filter (List.mem_of_mem_filter hfirst))
      cases hpresent : turn.present? filters with
      | none => simp [Turn.route, hpresent] at hroute
      | some present =>
          refine not_prefix_of_mem_enteredOf hlater present (by simp [hpresent]) ?_
          cases hoperator : operatorOf? turn.declared.1 with
          | none => simp [Turn.route, hpresent, hoperator] at hroute
          | some operator => simpa [Turn.route, hpresent, hoperator] using hroute.2

/-- The first operator decides how operators end if it has a fault, and else the others do. -/
lemma endsTold_cons_of_fine {turn : Turn} {rest : List Turn}
    (h : turn.isFine schema entity ignoreCase filters) :
    EndsTold schema entity ignoreCase filters (turn :: rest) ↔
      EndsTold schema entity ignoreCase filters rest := by
  rw [EndsTold, filterMap_present?_cons, Present.checkAll_append, Turn.isFine_iff.mp h]
  rfl

lemma endsTold_cons_of_fault {turn : Turn} {rest : List Turn} {present : Present}
    {fault : BuildFault} (hpresent : turn.present? filters = some present)
    (htest : present.test schema entity ignoreCase = .error fault) :
    EndsTold schema entity ignoreCase filters (turn :: rest) ↔ fault.IsTold := by
  rw [EndsTold, List.filterMap_cons_some hpresent, Present.checkAll, htest]
  simp

/-- **Errors.**  There is one exactly if a fault is told as an error, and then it comes last. -/
lemma exists_ending (turns : List Turn) (done : List Present) :
    ∃ front last,
      logOf schema entity ignoreCase filters done
        (reachedTurns schema entity ignoreCase filters turns) = front ++ last ∧
      (∀ event ∈ front, event.level ≠ .error) ∧
      ((EndsTold schema entity ignoreCase filters turns ∧
          ∃ event, last = [event] ∧ event.level = .error) ∨
        (¬EndsTold schema entity ignoreCase filters turns ∧ last = [])) := by
  induction turns generalizing done with
  | nil => exact ⟨[], [], rfl, by simp, .inr ⟨by simp [EndsTold, Present.checkAll], rfl⟩⟩
  | cons turn rest ih =>
      have hjoined : ∀ event ∈ (turn.firsts schema entity filters done).map
          (joinedEvent turn.field), event.level ≠ .error := by
        simp [joinedEvent, Event.level]
      by_cases hfine : turn.isFine schema entity ignoreCase filters
      · obtain ⟨event, htold, hconcludes⟩ := Turn.told_of_fine hfine
        obtain ⟨front, last, hlog, hfront, hlast⟩ :=
          ih (done ++ (turn.present? filters).toList)
        rw [endsTold_cons_of_fine hfine, reachedTurns_cons_of_fine hfine, logOf, Turn.told_eq,
          htold, hlog]
        refine ⟨_, last, (List.append_assoc ..).symm, ?_, hlast⟩
        simp only [List.mem_append, List.mem_singleton]
        rintro other ((hother | rfl) | hother)
        · exact hjoined other hother
        · exact hconcludes.isVerdict.2
        · exact hfront other hother
      · obtain ⟨present, fault, hpresent, htest⟩ := Turn.exists_fault hfine
        rw [endsTold_cons_of_fault hpresent htest, reachedTurns_cons_of_fault hfine, logOf, logOf,
          List.append_nil, Turn.told_eq]
        exact ⟨_, _, rfl, hjoined, Turn.told_of_fault hpresent htest⟩

end Readings

/-! ## Whole builds -/

section Builds

variable {schema : Schema} {entity : Entity} {ignoreCase : Bool} {filters : Mapping}
  {base : Statement}

/-- What the operators before the first fault have added: one predicate for each event that tells of
one. -/
lemma exists_passed (schema : Schema) (entity : Entity) (ignoreCase : Bool) (filters : Mapping)
    (base : Statement) (turns : List Turn) :
    ∃ statement progress added order,
      (applyTurns ⟨schema, .mapping filters, ignoreCase⟩ (.entity entity)
        (passedTurns schema entity ignoreCase filters turns) base).run .start =
          (.ok statement, progress) ∧
      (withRelated statement progress.related).predicates = base.predicates ++ added ∧
      order.Perm added ∧
      List.Forall₂ (Event.TellsOf schema entity ignoreCase filters
          (passedTurns schema entity ignoreCase filters turns))
        ((logOf schema entity ignoreCase filters []
          (passedTurns schema entity ignoreCase filters turns)).filter Event.isApplied) order := by
  let passed : List Turn := passedTurns schema entity ignoreCase filters turns
  have hfine : ∀ turn ∈ passed, turn.isFine schema entity ignoreCase filters :=
    fun turn => isFine_of_mem_passedTurns
  have hpassed := applyTurns_tracks filters passed (Tracks.begin schema entity ignoreCase base)
  rw [checkAll_eq_ok_iff.mpr hfine, List.nil_append] at hpassed
  obtain ⟨statement, progress, hrun, htracks⟩ := hpassed
  obtain ⟨added, hadded, hconditions⟩ := htracks.built.predicates
  -- the statement has the conditions on the root entity first
  have hperm : (passed.filterMap (Turn.present? filters)).Perm
      (rootOnly (passed.filterMap (Turn.present? filters)) ++
        relatedOnly (passed.filterMap (Turn.present? filters))) := by
    have hsplit := List.filter_append_perm (fun present => decide (Present.IsRoot present))
      (passed.filterMap (Turn.present? filters))
    simpa [rootOnly, relatedOnly] using hsplit.symm
  obtain ⟨order, horder, hsame⟩ := List.perm_comp_forall₂ hperm hconditions
  exact ⟨statement, progress, added, order, hrun, hadded, hsame, forall₂_tellsOf hfine [] horder⟩

/-- A refused ordering is not told. -/
lemma not_isTold_scope (fault : ScopeFault) : ¬(BuildFault.scope fault).IsTold := by
  rw [BuildFault.IsTold]
  cases fault with
  | unknownName name => simp [BuildFault.report, ScopeFault.report, ErrorClass.name]
  | operand refusal => cases refusal <;> decide
  | notOrdering shown => simp [BuildFault.report, ScopeFault.report, ErrorClass.name]

/-- A fault that is told is that of an operator. -/
lemma isTold_iff_of_build {definition : Definition} (hroot : base.root = .entity entity)
    {result : Except BuildFault Statement} {progress : Progress}
    (hbuild : (build ⟨schema, .mapping filters, ignoreCase⟩ definition base).run .start =
      (result, progress)) :
    (∃ fault, result = .error fault ∧ fault.IsTold) ↔
      EndsTold schema entity ignoreCase filters (turns definition.fields) := by
  have hrun := applyFields_run filters definition.fields
    (Built.begin schema entity ignoreCase base)
  rw [run_build definition hroot] at hbuild
  rw [EndsTold, ← present_eq_filterMap_turns]
  cases hcheck : Present.checkAll schema entity ignoreCase
      (present filters definition.fields) with
  | ok _ =>
      rw [hcheck] at hrun
      obtain ⟨statement, after, hrun, -⟩ := hrun
      rw [hrun] at hbuild
      refine iff_of_false ?_ (by simp)
      rintro ⟨fault, rfl, htold⟩
      obtain ⟨hresult, -⟩ := Prod.mk.inj hbuild
      cases horder : (withRelated statement after.related).orderBy definition.ordering with
      | ok ordered =>
          rw [horder] at hresult
          cases hresult
      | error refusal =>
          rw [horder] at hresult
          cases hresult
          exact not_isTold_scope refusal htold
  | error fault =>
      rw [hcheck] at hrun
      obtain ⟨after, hrun⟩ := hrun
      rw [hrun] at hbuild
      obtain ⟨rfl, -⟩ := Prod.mk.inj hbuild
      simp

/-- What a build over an entity reports, and what is tracked after it. -/
lemma gains_of_build {definition : Definition} (hroot : base.root = .entity entity)
    {result : Except BuildFault Statement} {progress : Progress}
    (hbuild : (build ⟨schema, .mapping filters, ignoreCase⟩ definition base).run .start =
      (result, progress)) :
    Gains .start progress
      (enteredOf schema entity filters []
        (reachedTurns schema entity ignoreCase filters (turns definition.fields)))
      (logOf schema entity ignoreCase filters []
        (reachedTurns schema entity ignoreCase filters (turns definition.fields))) := by
  have hgains := applyTurns_gains filters (turns definition.fields)
    (Tracks.begin schema entity ignoreCase base)
  rw [← applyFields_eq_applyTurns] at hgains
  rw [run_build definition hroot] at hbuild
  cases hrun : (applyFields ⟨schema, .mapping filters, ignoreCase⟩ (.entity entity)
      definition.fields base).run .start with
  | mk outcome after =>
      rw [hrun] at hbuild hgains
      cases outcome with
      | ok statement => exact (Prod.mk.inj hbuild).2 ▸ hgains
      | error fault => exact (Prod.mk.inj hbuild).2 ▸ hgains

/-- A build that does not fail has passed all operators, and adds their predicates. -/
lemma passedTurns_of_build {definition : Definition} (hroot : base.root = .entity entity)
    {final statement : Statement} {progress middle : Progress}
    (hbuild : (build ⟨schema, .mapping filters, ignoreCase⟩ definition base).run .start =
      (.ok final, progress))
    (hpassed : (applyTurns ⟨schema, .mapping filters, ignoreCase⟩ (.entity entity)
      (passedTurns schema entity ignoreCase filters (turns definition.fields)) base).run .start =
        (.ok statement, middle)) :
    passedTurns schema entity ignoreCase filters (turns definition.fields) =
        turns definition.fields ∧
      final.predicates = (withRelated statement middle.related).predicates := by
  have hcheck := checkAll_of_build hroot (.start schema entity) (congrArg Prod.fst hbuild)
  rw [present_eq_filterMap_turns] at hcheck
  have hall : passedTurns schema entity ignoreCase filters (turns definition.fields) =
      turns definition.fields := List.takeWhile_eq_self_iff.mpr (checkAll_eq_ok_iff.mp hcheck)
  refine ⟨hall, ?_⟩
  rw [hall, ← applyFields_eq_applyTurns] at hpassed
  rw [run_build definition hroot, hpassed] at hbuild
  obtain ⟨order, rfl⟩ := Statement.order_of_orderBy (mapError_eq_ok.mp (Prod.mk.inj hbuild).1)
  rfl

/-- An error is reported for a fault that is told, and nothing after it. -/
lemma errors_of_build {definition : Definition} (hroot : base.root = .entity entity)
    {result : Except BuildFault Statement} {progress : Progress}
    (hbuild : (build ⟨schema, .mapping filters, ignoreCase⟩ definition base).run .start =
      (result, progress)) :
    ((∃ event ∈ progress.events, event.level = .error) ↔
      ∃ fault, result = .error fault ∧ fault.IsTold) ∧
    ∀ before event after, progress.events = before ++ event :: after → event.level = .error →
      after = [] := by
  obtain ⟨front, last, hends, hfront, hlast⟩ := exists_ending (turns definition.fields) []
  have hevents : progress.events = front ++ last := (gains_of_build hroot hbuild).events.trans hends
  rw [isTold_iff_of_build hroot hbuild, hevents]
  rcases hlast with ⟨htold, event, rfl, hlevel⟩ | ⟨htold, rfl⟩
  · refine ⟨iff_of_true ⟨event, by simp, hlevel⟩ htold, ?_⟩
    intro before other after hsplit hother
    rcases List.eq_nil_or_concat after with rfl | ⟨others, final, rfl⟩
    · rfl
    · rw [List.concat_eq_append, ← List.cons_append, ← List.append_assoc] at hsplit
      obtain ⟨hsame, -⟩ := List.append_inj' hsplit rfl
      exact absurd hother (hfront other (by simp [hsame]))
  · rw [List.append_nil]
    refine ⟨iff_of_false ?_ htold, ?_⟩
    · rintro ⟨event, hevent, hlevel⟩
      exact hfront event hevent hlevel
    · intro before event after hsplit hlevel
      exact absurd hlevel (hfront event (by simp [hsplit]))

/-- **The log tells what a build did.**

* The log is what is told of the operators up to the first fault, one after the other.
* Its verdicts are those on the operators before that, in order: skipped if they do not count, else
  applied.
* The applied ones tell of the predicates that were added, each of one.  A build that does not fail has
  passed all operators, and these are the predicates of its result.
* Each tracked prefix was reported once, when the first operator that has it on its path had its turn.
* There is an error exactly if the build fails with an unknown operator or a path that breaks off.  It
  comes last, so that there is no other. -/
theorem log_of_build (definition : Definition) (hroot : base.root = .entity entity) :
    ∃ result progress,
      (build ⟨schema, .mapping filters, ignoreCase⟩ definition base).run .start =
        (result, progress) ∧
      buildFresh ⟨schema, .mapping filters, ignoreCase⟩ definition base =
        (result, progress.events) ∧
      progress.events = logOf schema entity ignoreCase filters []
        (reachedTurns schema entity ignoreCase filters (turns definition.fields)) ∧
      List.Forall₂ (Turn.Concludes filters)
        (passedTurns schema entity ignoreCase filters (turns definition.fields))
        (progress.events.filter Event.isVerdict) ∧
      (∃ statement middle added order,
        (applyTurns ⟨schema, .mapping filters, ignoreCase⟩ (.entity entity)
          (passedTurns schema entity ignoreCase filters (turns definition.fields)) base).run .start =
            (.ok statement, middle) ∧
        (withRelated statement middle.related).predicates = base.predicates ++ added ∧
        order.Perm added ∧
        List.Forall₂ (Event.TellsOf schema entity ignoreCase filters
            (passedTurns schema entity ignoreCase filters (turns definition.fields)))
          (progress.events.filter Event.isApplied) order ∧
        ∀ final, result = .ok final →
          passedTurns schema entity ignoreCase filters (turns definition.fields) =
            turns definition.fields ∧
          final.predicates = base.predicates ++ added) ∧
      progress.prefixes.Nodup ∧
      List.Forall₂ (fun path event => ∃ before turn after,
          reachedTurns schema entity ignoreCase filters (turns definition.fields) =
            before ++ turn :: after ∧
          path ∈ turn.firsts schema entity filters (before.filterMap (Turn.present? filters)) ∧
          event = joinedEvent turn.field path)
        progress.prefixes (progress.events.filter Event.isJoined) ∧
      ((∃ event ∈ progress.events, event.level = .error) ↔
        ∃ fault, result = .error fault ∧ fault.IsTold) ∧
      ∀ before event after, progress.events = before ++ event :: after → event.level = .error →
        after = [] := by
  obtain ⟨result, progress, hbuild⟩ : ∃ result progress,
      (build ⟨schema, .mapping filters, ignoreCase⟩ definition base).run .start =
        (result, progress) := ⟨_, _, rfl⟩
  have hgains := gains_of_build hroot hbuild
  have hlog : progress.events = logOf schema entity ignoreCase filters []
      (reachedTurns schema entity ignoreCase filters (turns definition.fields)) := hgains.events
  have hprefixes : progress.prefixes = enteredOf schema entity filters []
      (reachedTurns schema entity ignoreCase filters (turns definition.fields)) := hgains.prefixes
  have hfine : ∀ turn ∈ passedTurns schema entity ignoreCase filters (turns definition.fields),
      turn.isFine schema entity ignoreCase filters := fun turn => isFine_of_mem_passedTurns
  obtain ⟨statement, middle, added, order, hrun, hadded, hperm, htells⟩ :=
    exists_passed schema entity ignoreCase filters base (turns definition.fields)
  refine ⟨result, progress, hbuild, by rw [buildFresh, hbuild], hlog, ?_,
    ⟨statement, middle, added, order, hrun, hadded, hperm, ?_, ?_⟩, ?_, ?_,
    errors_of_build hroot hbuild⟩
  · rw [hlog, filter_logOf_reachedTurns (fun _ _ => rfl) (fun _ _ _ => rfl) fun _ _ => rfl]
    exact forall₂_concludes hfine []
  · rwa [hlog, filter_logOf_reachedTurns (fun _ _ => rfl) (fun _ _ _ => rfl) fun _ _ => rfl]
  · rintro final rfl
    obtain ⟨hall, hpredicates⟩ := passedTurns_of_build hroot hbuild hrun
    exact ⟨hall, hpredicates.trans hadded⟩
  · rw [hprefixes]
    exact nodup_enteredOf _ []
  · rw [hprefixes, hlog]
    exact forall₂_joined _ []

end Builds

/-- Labels by fields that there are not: the first operator is skipped, the second one enters the products
and finds no column there, and the third one has no turn. -/
theorem log_of_build_lost :
    ∃ (result : Except BuildFault Statement) (progress : Progress),
      buildFresh ⟨Sample.schema, .mapping [(.str "title", .str "Saw")], true⟩ Sample.lostDefinition
        Sample.allLabels = (result, progress.events) ∧
      progress.prefixes = [["products"]] ∧
      progress.events =
        [.skipped "nowhere" "absent", .joined "products.title" "products",
          .invalidPath "products.title" "'title' is not a column of Product"] ∧
      ((∃ event ∈ progress.events, event.level = .error) ↔
        ∃ fault, result = .error fault ∧ fault.IsTold) := by
  obtain ⟨result, progress, hbuild, hfresh, hlog, -, -, -, -, herror, -⟩ :
      ∃ result progress, (build ⟨Sample.schema, .mapping [(.str "title", .str "Saw")], true⟩
        Sample.lostDefinition Sample.allLabels).run .start = (result, progress) ∧ _ :=
    log_of_build Sample.lostDefinition rfl
  have hprefixes : progress.prefixes = [["products"]] := congrArg (·.2.prefixes) hbuild.symm
  exact ⟨result, progress, hfresh, hprefixes, hlog, herror⟩

end FilterQuery
