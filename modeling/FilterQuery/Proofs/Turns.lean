import Mathlib.Data.List.Infix
import Mathlib.Data.List.Nodup
import Mathlib.Tactic.Common
import FilterQuery.Proofs.Runs

/-!
# Turn by turn

What one operator after the other adds to the tracked prefixes and to what was reported.

**Prefixes.**  `FieldPath.prefixes` are the relationships of a path, the first alone and then more and
more of them; `prefixesOf` are those of several paths, each where it is used first.

**Paths.**  `Gains` says what is tracked and reported besides what was before.  `walk_run` is a whole
walk, whether it reaches its end or breaks off: what it enters for the first time are the prefixes that
lead somewhere and are not tracked.

**Turns.**  `Turn.apply_gains` says so of one operator, whatever comes of it.  `applyTurns_tracks` is
about what is tracked after any number of them.
-/

namespace FilterQuery

open FilterQuery.Sql

/-! ## Prefixes -/

/-- The prefixes of a path but the empty one, from the shortest on. -/
def FieldPath.prefixes (path : FieldPath) : List FieldPath :=
  path.inits.tail

/-- The prefixes of some paths in the order in which they are first used. -/
def prefixesOf (paths : List FieldPath) : List FieldPath :=
  (paths.flatMap FieldPath.prefixes).eraseDups

/-- The prefixes that are tracked, in the order in which they were entered. -/
def Progress.prefixes (progress : Progress) : List FieldPath :=
  progress.tracker.map Prod.fst

section Prefixes

variable {path other : FieldPath} {paths : List FieldPath} {progress : Progress}

lemma FieldPath.prefixes_cons (segment : String) (rest : FieldPath) :
    FieldPath.prefixes (segment :: rest) =
      [segment] :: (FieldPath.prefixes rest).map (segment :: ·) := by
  cases rest <;> simp [FieldPath.prefixes]

lemma FieldPath.mem_prefixes : other ∈ path.prefixes ↔ other ≠ [] ∧ other <+: path := by
  induction path generalizing other with
  | nil => simp [FieldPath.prefixes]
  | cons segment rest ih =>
      rw [FieldPath.prefixes_cons, List.mem_cons, List.mem_map]
      cases other with
      | nil => simp
      | cons first more =>
          simp only [ih, List.cons.injEq, List.cons_prefix_cons, ne_eq, reduceCtorEq,
            not_false_eq_true, true_and]
          by_cases hmore : more = []
          · subst hmore
            simp [eq_comm]
          · simp [hmore, eq_comm, and_comm]

/-- No prefix comes twice: the further ones are longer. -/
lemma FieldPath.nodup_prefixes (path : FieldPath) : path.prefixes.Nodup := by
  induction path with
  | nil => exact List.nodup_nil
  | cons segment rest ih =>
      rw [FieldPath.prefixes_cons, List.nodup_cons]
      refine ⟨?_, ih.map (List.cons_injective)⟩
      simp [FieldPath.mem_prefixes]

lemma mem_prefixesOf : other ∈ prefixesOf paths ↔ other ≠ [] ∧ ∃ path ∈ paths, other <+: path := by
  simp only [prefixesOf, List.mem_eraseDups, List.mem_flatMap, FieldPath.mem_prefixes]
  tauto

/-- Where nothing comes twice, nothing is left out. -/
private lemma eraseDups_of_nodup {items : List FieldPath} (h : items.Nodup) :
    items.eraseDups = items := by
  induction items with
  | nil => rfl
  | cons item rest ih =>
      obtain ⟨hitem, hrest⟩ := List.nodup_cons.mp h
      have hkept : rest.filter (fun other => !other == item) = rest := by
        rw [List.filter_eq_self]
        rintro other hother
        have hne : other ≠ item := fun heq => hitem (heq ▸ hother)
        simp [hne]
      rw [List.eraseDups_cons, hkept, ih hrest]

/-- One path more has its prefixes behind those of the others, as far as they are new. -/
lemma prefixesOf_concat (paths : List FieldPath) (path : FieldPath) :
    prefixesOf (paths ++ [path]) =
      prefixesOf paths ++ path.prefixes.filter (· ∉ prefixesOf paths) := by
  have hnew : path.prefixes.removeAll (paths.flatMap FieldPath.prefixes) =
      path.prefixes.filter (· ∉ prefixesOf paths) := by
    refine List.filter_congr fun other _ => ?_
    simp only [prefixesOf, List.elem_eq_mem, List.mem_eraseDups, decide_not]
  rw [prefixesOf, List.flatMap_append, List.flatMap_singleton, List.eraseDups_append, hnew,
    eraseDups_of_nodup ((FieldPath.nodup_prefixes path).filter _)]
  rfl

/-- What is tracked is found, and nothing else. -/
lemma isSome_alias?_iff : (progress.tracker.alias? path).isSome ↔ path ∈ progress.prefixes := by
  rw [← not_iff_not, Option.not_isSome_iff_eq_none, JoinTracker.alias?, List.lookup_eq_none_iff,
    Progress.prefixes]
  simp only [bne_iff_ne, List.mem_map, not_exists, not_and]
  exact ⟨fun h entry hentry heq => h entry hentry heq.symm,
    fun h entry hentry heq => h entry hentry heq.symm⟩

end Prefixes

/-! ## Paths -/

/-- A prefix is tracked under an alias that was not tracked before. -/
def joinedEvent (field : FieldFilter) (path : FieldPath) : Event :=
  .joined field.name (FieldPath.dotted path)

/-- What is tracked and reported besides what was before. -/
structure Gains (progress after : Progress) (paths : List FieldPath) (events : List Event) :
    Prop where
  prefixes : after.prefixes = progress.prefixes ++ paths
  events : after.events = progress.events ++ events

namespace Gains

variable {progress after next : Progress} {paths more : List FieldPath} {events others : List Event}

lemma nothing (progress : Progress) : Gains progress progress [] [] :=
  ⟨(List.append_nil _).symm, (List.append_nil _).symm⟩

lemma trans (h : Gains progress after paths events) (h' : Gains after next more others) :
    Gains progress next (paths ++ more) (events ++ others) :=
  ⟨by rw [h'.prefixes, h.prefixes, List.append_assoc],
    by rw [h'.events, h.events, List.append_assoc]⟩

/-- The subquery may change besides. -/
lemma hold (h : Gains progress after paths events) (related : Option Related) :
    Gains progress { after with related := related } paths events :=
  ⟨h.prefixes, h.events⟩

/-- One more event. -/
lemma report (h : Gains progress after paths events) (event : Event) :
    Gains progress { after with events := after.events ++ [event] } paths (events ++ [event]) :=
  ⟨h.prefixes, by rw [h.events, List.append_assoc]⟩

end Gains

/-- The prefixes of a path that lead somewhere. -/
def Schema.reachable (schema : Schema) (entity : Entity) (path : FieldPath) : List FieldPath :=
  path.prefixes.filter fun sub => (schema.reach entity sub).isOk

/-- Where the first relationship leads somewhere, so do the prefixes that go on from there. -/
lemma Schema.reachable_cons (schema : Schema) (entity : Entity) (segment : String)
    (rest : FieldPath) :
    schema.reachable entity (segment :: rest) =
      match schema.step? entity segment with
      | some (_, target) => [segment] :: (schema.reachable target rest).map (segment :: ·)
      | none => [] := by
  rw [Schema.reachable, FieldPath.prefixes_cons, List.filter_cons, List.filter_map]
  cases hstep : schema.step? entity segment with
  | none =>
      have hnone : ∀ sub, (schema.reach entity (segment :: sub)).isOk = false := by
        intro sub
        rw [Schema.reach, hstep]
        rfl
      rw [hnone, List.filter_eq_nil_iff.mpr fun sub _ => by simp [hnone]]
      rfl
  | some found =>
      have hreach : ∀ sub, schema.reach entity (segment :: sub) = schema.reach found.2 sub := by
        intro sub
        rw [Schema.reach, hstep]
      simp only [hreach, Function.comp_def]
      rfl

/-- The event of a path that breaks off. -/
def brokenEvents {α : Type} (field : FieldFilter) : Except PathBreak α → List Event
  | .ok _ => []
  | .error cause => [.invalidPath field.name cause.reason]

section Walking

variable {context : BuildContext} {root : Alias} {reached : Reached} {progress : Progress}

/-- **One step.**  A relationship that is entered for the first time is tracked and reported. -/
lemma enter_gains (field : FieldFilter) {behind : FieldPath} {segment : String}
    {relationship : Relationship} {target : Entity}
    (h : Stands context.schema root behind reached progress)
    (hstep : context.schema.step? reached.entity segment = some (relationship, target)) :
    ∃ reached' progress',
      (enter context field (behind ++ [segment]) segment reached).run progress =
        (.ok reached', progress') ∧
      Stands context.schema root (behind ++ [segment]) reached' progress' ∧
      reached'.entity = target ∧
      Gains progress progress' ([behind ++ [segment]].filter (· ∉ progress.prefixes))
        (([behind ++ [segment]].filter (· ∉ progress.prefixes)).map (joinedEvent field)) := by
  obtain ⟨reached', progress', hrun, hstands, hentity, -⟩ := enter_keeps field h hstep
  refine ⟨reached', progress', hrun, hstands, hentity, ?_⟩
  cases hknown : progress.tracker.alias? (behind ++ [segment]) with
  | some known =>
      have hmem : behind ++ [segment] ∈ progress.prefixes :=
        isSome_alias?_iff.mp (by rw [hknown]; rfl)
      obtain ⟨-, rfl⟩ := Prod.mk.inj ((enter_of_known hstep hknown).symm.trans hrun)
      simpa [hmem] using Gains.nothing progress
  | none =>
      have hmem : behind ++ [segment] ∉ progress.prefixes := by
        rw [← isSome_alias?_iff, hknown]
        simp
      obtain ⟨-, rfl⟩ := Prod.mk.inj ((enter_of_new h.entity hstep hknown).symm.trans hrun)
      have hnew : [behind ++ [segment]].filter (· ∉ progress.prefixes) =
          [behind ++ [segment]] := by simp [hmem]
      rw [hnew]
      refine ⟨?_, rfl⟩
      rw [Progress.prefixes, JoinTracker.add, Entries.put_of_lookup_eq_none _ _ hknown,
        List.map_append]
      rfl

/-- The prefixes that a walk from a place on enters: those that lead somewhere and are not known. -/
def newFrom (schema : Schema) (entity : Entity) (known : List FieldPath) (behind : FieldPath)
    (rest : FieldPath) : List FieldPath :=
  ((schema.reachable entity rest).map (behind ++ ·)).filter (· ∉ known)

/-- What is new from a place on is the next relationship, if it is new, and what is new behind it. -/
lemma newFrom_cons {schema : Schema} {entity target : Entity} {relationship : Relationship}
    {segment : String} (hstep : schema.step? entity segment = some (relationship, target))
    (known : List FieldPath) (behind rest : FieldPath) :
    newFrom schema entity known behind (segment :: rest) =
      [behind ++ [segment]].filter (· ∉ known) ++
        newFrom schema target (known ++ [behind ++ [segment]].filter (· ∉ known))
          (behind ++ [segment]) rest := by
  have hlonger : ∀ sub ∈ schema.reachable target rest, behind ++ segment :: sub ≠
      behind ++ [segment] := by
    intro sub hsub
    have hne : sub ≠ [] := (FieldPath.mem_prefixes.mp (List.mem_of_mem_filter hsub)).1
    simpa using hne
  rw [newFrom, Schema.reachable_cons, hstep, newFrom, List.map_cons, ← List.singleton_append,
    List.filter_append, List.map_map]
  congr 1
  rw [List.filter_map, List.filter_map]
  have hsame : (schema.reachable target rest).filter
      ((fun path => decide (path ∉ known)) ∘ (behind ++ ·) ∘ (segment :: ·)) =
      (schema.reachable target rest).filter ((fun path => decide (path ∉ known ++
        [behind ++ [segment]].filter (· ∉ known))) ∘ (behind ++ [segment] ++ ·)) := by
    refine List.filter_congr fun sub hsub => ?_
    simp [List.mem_filter, hlonger sub hsub]
  rw [hsame]
  exact List.map_congr_left fun sub _ => by simp

/-- **A walk**, by induction on what lies ahead of it: it enters what is new, and ends where the path
ends or breaks off. -/
theorem walk_run (field : FieldFilter) (rest : List String) {behind : FieldPath}
    (h : Stands context.schema root behind reached progress) :
    ∃ result progress',
      (walk context field behind rest reached).run progress = (result, progress') ∧
      (match context.schema.reach reached.entity rest with
        | .ok target => ∃ reached', result = .ok reached' ∧ reached'.entity = target
        | .error cause => result = .error (.invalidPath field.name cause)) ∧
      Gains progress progress'
        (newFrom context.schema reached.entity progress.prefixes behind rest)
        ((newFrom context.schema reached.entity progress.prefixes behind rest).map
            (joinedEvent field) ++
          brokenEvents field (context.schema.reach reached.entity rest)) := by
  induction rest generalizing behind reached progress with
  | nil => exact ⟨_, _, rfl, ⟨reached, rfl, rfl⟩, Gains.nothing progress⟩
  | cons segment rest ih =>
      cases hstep : context.schema.step? reached.entity segment with
      | none =>
          have hnew : newFrom context.schema reached.entity progress.prefixes behind
              (segment :: rest) = [] := by
            rw [newFrom, Schema.reachable_cons, hstep]
            rfl
          have hreach : context.schema.reach reached.entity (segment :: rest) =
              .error (.notRelationship segment reached.entity.name) := by
            rw [Schema.reach, hstep]
          rw [hnew, hreach]
          refine ⟨_, _, ?_, rfl, (Gains.nothing progress).report _⟩
          rw [walk, Build.run_bind, enter_of_break hstep]
      | some found =>
          obtain ⟨relationship, target⟩ := found
          obtain ⟨reached', progress', hrun, hstands, rfl, hgains⟩ := enter_gains field h hstep
          obtain ⟨result, after, hwalk, hresult, hgains'⟩ := ih hstands
          have hreach : context.schema.reach reached.entity (segment :: rest) =
              context.schema.reach reached'.entity rest := by
            rw [Schema.reach, hstep]
          rw [hgains.prefixes] at hgains'
          rw [newFrom_cons hstep, hreach, List.map_append, List.append_assoc]
          refine ⟨result, after, ?_, hresult, hgains.trans hgains'⟩
          rw [walk, Build.run_bind, hrun]
          exact hwalk

end Walking

/-! ## Columns -/

section Columns

variable {context : BuildContext} {entity : Entity} {field : FieldFilter} {done : List Present}

/-- A column was looked up: it is found where its path leads, what is new on the path is tracked and
reported, and so is that the path breaks off. -/
structure Resolves (field : FieldFilter) (found : Except PathBreak Column)
    (entered : List FieldPath) (progress : Progress)
    (run : Except BuildFault ColumnRef × Progress) : Prop where
  result : match found with
    | .ok column => ∃ source, run.1 = .ok (ColumnRef.ofColumn source column)
    | .error cause => run.1 = .error (.invalidPath field.name cause)
  gains : Gains progress run.2 entered (entered.map (joinedEvent field) ++ brokenEvents field found)

/-- The last segment of a path. -/
lemma columnOf_resolves (field : FieldFilter) (reached : Entity) (source : Source)
    (progress : Progress) :
    Resolves field
      (match reached.column? (field.path.getLast?.getD "") with
        | some column => .ok column
        | none => .error (.notColumn (field.path.getLast?.getD "") reached.name))
      [] progress ((columnOf field reached source).run progress) := by
  rw [columnOf]
  cases reached.column? (field.path.getLast?.getD "") with
  | some column => exact ⟨⟨source, rfl⟩, Gains.nothing progress⟩
  | none => exact ⟨rfl, (Gains.nothing progress).report _⟩

/-- A path of one segment. -/
lemma rootColumn_resolves (schema : Schema) (entity : Entity) (hroot : field.path.length = 1)
    (progress : Progress) :
    Resolves field (schema.columnAt entity field.path) [] progress
      ((rootColumn (.entity entity) field).run progress) := by
  rw [Schema.columnAt_of_length_one hroot]
  exact columnOf_resolves field entity (.ofTable entity.table) progress

/-- A path over relationships. -/
lemma relatedColumn_resolves (field : FieldFilter) {progress : Progress}
    (h : Holding context.schema entity context.ignoreCase done progress) :
    Resolves field (context.schema.columnAt entity field.path)
      ((context.schema.reachable entity field.path.dropLast).filter (· ∉ progress.prefixes))
      progress ((relatedColumn context (.entity entity) field).run progress) := by
  obtain ⟨related, fresh, hscope, hcollected⟩ := relatedScope_run h
  obtain ⟨result, walked, hwalk, hresult, hgains⟩ :=
    walk_run field field.path.dropLast (stands_start progress.events hcollected)
  have hnew : newFrom context.schema entity progress.prefixes [] field.path.dropLast =
      (context.schema.reachable entity field.path.dropLast).filter (· ∉ progress.prefixes) := by
    simp [newFrom]
  have hgains' : Gains progress walked
      (newFrom context.schema entity progress.prefixes [] field.path.dropLast)
      ((newFrom context.schema entity progress.prefixes [] field.path.dropLast).map
          (joinedEvent field) ++
        brokenEvents field (context.schema.reach entity field.path.dropLast)) :=
    ⟨hgains.prefixes, hgains.events⟩
  rw [hnew] at hgains'
  simp only [relatedColumn, Build.run_bind, hscope, hwalk]
  rw [Schema.columnAt]
  cases hreach : context.schema.reach entity field.path.dropLast with
  | error cause =>
      rw [hreach] at hresult hgains'
      rw [hresult]
      exact ⟨rfl, hgains'⟩
  | ok target =>
      rw [hreach] at hresult hgains'
      obtain ⟨reached', rfl, rfl⟩ := hresult
      have hcolumn := columnOf_resolves field reached'.entity reached'.here.source
        { walked with related := some reached'.related }
      refine ⟨hcolumn.result, ?_⟩
      have hboth := (hgains'.hold (some reached'.related)).trans hcolumn.gains
      rw [List.append_nil, brokenEvents, List.append_nil] at hboth
      exact hboth

end Columns

/-! ## Turns -/

section Turns

variable {schema : Schema} {entity : Entity} {ignoreCase : Bool} {filters : Mapping}
  {base statement : Statement} {done : List Present} {progress : Progress}

/-- The relationships that an operator goes along when its turn comes: none if it does not count, or
is unknown. -/
def Turn.route (filters : Mapping) (turn : Turn) : FieldPath :=
  match turn.present? filters, operatorOf? turn.declared.1 with
  | some present, some _ => present.behind
  | _, _ => []

/-- The prefixes that are entered with an operator: those on its path that lead somewhere, and that are
on no path of a present operator before it. -/
def Turn.firsts (schema : Schema) (entity : Entity) (filters : Mapping) (done : List Present)
    (turn : Turn) : List FieldPath :=
  (schema.reachable entity (turn.route filters)).filter fun path =>
    ∀ earlier ∈ done, ¬path <+: earlier.behind

/-- What is reported of an operator, given the prefixes that are entered with it. -/
def Turn.told (schema : Schema) (entity : Entity) (ignoreCase : Bool) (filters : Mapping)
    (entered : List FieldPath) (turn : Turn) : List Event :=
  match turn.present? filters with
  | none => [.skipped turn.field.name turn.declared.2]
  | some present =>
    match operatorOf? turn.declared.1 with
    | none =>
      [.unknownOperator (unknownOperatorText turn.declared.1.display turn.field.name)
        turn.field.name turn.declared.2]
    | some operator =>
      entered.map (joinedEvent turn.field) ++
        match present.test schema entity ignoreCase with
        | .ok _ => [.applied turn.field.name operator turn.declared.2]
        | .error (.invalidPath _ cause) => [.invalidPath turn.field.name cause.reason]
        | .error _ => []

/-- What is built after some present operators, and the prefixes of their paths are tracked in the
order in which they are first used. -/
structure Tracks (schema : Schema) (entity : Entity) (ignoreCase : Bool) (base : Statement)
    (done : List Present) (statement : Statement) (progress : Progress) : Prop where
  built : Built schema entity ignoreCase base done statement progress
  prefixes : progress.prefixes = prefixesOf (done.map Present.behind)

/-- What is new is what no operator has used before. -/
lemma Tracks.filter_new (h : Tracks schema entity ignoreCase base done statement progress)
    (path : FieldPath) :
    (schema.reachable entity path).filter (· ∉ progress.prefixes) =
      (schema.reachable entity path).filter fun path =>
        ∀ earlier ∈ done, ¬path <+: earlier.behind := by
  refine List.filter_congr fun sub hsub => ?_
  have hne : sub ≠ [] := (FieldPath.mem_prefixes.mp (List.mem_of_mem_filter hsub)).1
  rw [h.prefixes, decide_eq_decide, mem_prefixesOf]
  simp [hne]

/-- What is reported once the column of an operator was looked up: that it was applied if it takes the
value, that the path breaks off, or nothing. -/
lemma Resolves.gains_test {field : FieldFilter} {name value : Value} {operator : Operator}
    {entered : List FieldPath} {event : Event} {column : Build ColumnRef}
    {conclude : Predicate ColumnRef → Build Statement}
    (h : Resolves field (schema.columnAt entity field.path) entered progress (column.run progress))
    (hoperator : operatorOf? name = some operator)
    (hconclude : ∀ predicate before, ∃ related, ((conclude predicate).run before).2 =
      { before with related := related, events := before.events ++ [event] }) :
    Gains progress
      ((do let column ← column
           let predicate ← liftExcept
             ((operator.predicate column value ignoreCase).mapError BuildFault.operand)
           conclude predicate : Build Statement).run progress).2
      entered
      (entered.map (joinedEvent field) ++
        match Present.test schema entity ignoreCase ⟨field.path, name, value⟩ with
        | .ok _ => [event]
        | .error (.invalidPath _ cause) => [.invalidPath field.name cause.reason]
        | .error _ => []) := by
  obtain ⟨hresult, hgains⟩ := h
  rw [Build.run_bind, Present.test, hoperator]
  cases hrun : column.run progress with
  | mk result after =>
      rw [hrun] at hresult hgains
      cases hcolumn : schema.columnAt entity field.path with
      | error cause =>
          rw [hcolumn] at hresult hgains
          obtain rfl : result = _ := hresult
          exact hgains
      | ok found =>
          rw [hcolumn] at hresult hgains
          obtain ⟨source, rfl⟩ : ∃ source, result = _ := hresult
          rw [brokenEvents, List.append_nil] at hgains
          simp only [Build.run_bind, Build.run_liftExcept, Operator.predicate_map]
          cases operator.predicate found value ignoreCase with
          | error refusal => simpa [Except.map, Except.mapError] using hgains
          | ok test =>
              obtain ⟨related, hafter⟩ := hconclude (test.map (ColumnRef.ofColumn source)) after
              simp only [Except.map, Except.mapError, hafter]
              exact (hgains.report event).hold related

/-- **One operator**, whatever comes of it: what it enters for the first time is tracked, and it is
reported what becomes of it. -/
theorem Turn.apply_gains (turn : Turn) (filters : Mapping)
    (h : Tracks schema entity ignoreCase base done statement progress) :
    Gains progress
      ((turn.apply ⟨schema, .mapping filters, ignoreCase⟩ (.entity entity) statement).run
        progress).2
      (turn.firsts schema entity filters done)
      (turn.told schema entity ignoreCase filters (turn.firsts schema entity filters done)) := by
  rw [Turn.apply, Turn.told, Turn.firsts, Turn.route]
  cases hpresent : turn.present? filters with
  | none =>
      rw [applyOperator_of_absent _ _ _ hpresent]
      exact (Gains.nothing progress).report _
  | some present =>
      obtain ⟨value, hfind, rfl⟩ := present?_eq_some.mp hpresent
      cases hoperator : operatorOf? turn.declared.1 with
      | none =>
          rw [applyOperator_of_unknown _ _ _ hfind hoperator]
          exact (Gains.nothing progress).report _
      | some operator =>
          by_cases hroot : turn.field.path.length = 1
          · have hnil : turn.field.path.dropLast = [] :=
              List.eq_nil_of_length_eq_zero (by rw [List.length_dropLast, hroot])
            rw [applyOperator_root _ _ _ hfind hoperator hroot]
            simp only [Present.behind, hnil]
            refine (rootColumn_resolves schema entity hroot progress).gains_test hoperator ?_
            intro predicate before
            exact ⟨before.related, rfl⟩
          · rw [applyOperator_related _ _ _ hfind hoperator hroot, ← h.filter_new]
            refine (relatedColumn_resolves turn.field h.built.holding).gains_test hoperator ?_
            intro predicate before
            exact ⟨_, rfl⟩

/-- Before the first turn. -/
lemma Tracks.begin (schema : Schema) (entity : Entity) (ignoreCase : Bool) (base : Statement) :
    Tracks schema entity ignoreCase base [] base .start where
  built := Built.begin schema entity ignoreCase base
  prefixes := rfl

/-- A relationship is entered only behind the one before it, so that all prefixes lead somewhere if the
whole path does. -/
lemma Schema.reachable_of_reach {path : FieldPath} {target : Entity}
    (h : schema.reach entity path = .ok target) : schema.reachable entity path = path.prefixes := by
  rw [Schema.reachable, List.filter_eq_self]
  intro sub hsub
  obtain ⟨rest, rfl⟩ := (FieldPath.mem_prefixes.mp hsub).2
  rw [Schema.reach_append] at h
  cases hreach : schema.reach entity sub with
  | ok reached => rfl
  | error cause => simp [hreach] at h

/-- An operator that is applied has all prefixes of its path tracked. -/
lemma Turn.apply_tracks (turn : Turn) (filters : Mapping)
    (h : Tracks schema entity ignoreCase base done statement progress) :
    EndsAs (Present.checkAll schema entity ignoreCase (turn.present? filters).toList)
      (Tracks schema entity ignoreCase base (done ++ (turn.present? filters).toList))
      ((turn.apply ⟨schema, .mapping filters, ignoreCase⟩ (.entity entity) statement).run
        progress) := by
  refine (turn.apply_run h.built).imp fun hcheck next after hrun hbuilt => ⟨hbuilt, ?_⟩
  have hgains := turn.apply_gains filters h
  rw [hrun] at hgains
  rw [hgains.prefixes, Turn.firsts, ← h.filter_new, h.prefixes]
  cases hpresent : turn.present? filters with
  | none =>
      rw [Turn.route, hpresent, Option.toList_none, List.append_nil]
      exact List.append_nil _
  | some present =>
      rw [hpresent, Option.toList_some] at hcheck
      obtain ⟨test, htest⟩ := Present.checkAll_eq_ok.mp hcheck present (List.mem_singleton_self _)
      obtain ⟨operator, column, hoperator, hcolumn, -⟩ := Present.test_eq_ok.mp htest
      obtain ⟨target, hreach, -⟩ := Schema.columnAt_eq_ok.mp hcolumn
      obtain ⟨value, hfind, rfl⟩ := present?_eq_some.mp hpresent
      have hroute : turn.route filters = turn.field.path.dropLast := by
        simp only [Turn.route, hpresent, hoperator]
        rfl
      rw [hroute, Schema.reachable_of_reach hreach, Option.toList_some, List.map_append,
        List.map_singleton, prefixesOf_concat]
      rfl

/-- **Any number of operators.**  As long as there is no fault the tracked prefixes are those of the
present operators so far. -/
theorem applyTurns_tracks (filters : Mapping) (turns : List Turn)
    (h : Tracks schema entity ignoreCase base done statement progress) :
    EndsAs (Present.checkAll schema entity ignoreCase (turns.filterMap (Turn.present? filters)))
      (Tracks schema entity ignoreCase base (done ++ turns.filterMap (Turn.present? filters)))
      ((applyTurns ⟨schema, .mapping filters, ignoreCase⟩ (.entity entity) turns statement).run
        progress) :=
  applyTurns_endsAs (fun turn _ _ _ => turn.apply_tracks filters) turns h

end Turns

end FilterQuery
