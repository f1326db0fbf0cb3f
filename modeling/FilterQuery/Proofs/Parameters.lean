import Mathlib.Data.List.Forall2
import Mathlib.Tactic.Common
import FilterQuery.Sql.Written

/-!
# The parameters of a written statement

A statement is written part by part, and each part lists the parameters it has a question mark for.
The parameters of a whole statement are thus those of its parts, wherever the parts stand.

**Writings.**  `Writes` is what a writing lists, whatever has been written before, and that it leaves
the names alone that were chosen before.  It goes through sequences (`Writes.bind`) and lists of parts
(`Writes.joined`).

**Statements.**  `mem_parameters_written`: a statement lists the parameters of its conditions, of its
ordering and of its limits.  Children that are loaded along add none.
-/

namespace FilterQuery.Sql

/-! ## Writings -/

/-- A writing lists these parameters behind those that are there, and chooses names behind those that
are chosen. -/
def Writes {α : Type} (writing : Writing α) (parameters : List Parameter) : Prop :=
  ∀ naming, (writing.run naming).2.parameters = naming.parameters ++ parameters ∧
    naming.numbers <+: (writing.run naming).2.numbers

namespace Writes

variable {α β : Type} {writing : Writing α} {next : α → Writing β}
  {parameters more : List Parameter}

lemma pure (a : α) : Writes (Pure.pure a : Writing α) [] := by
  intro naming
  exact ⟨(List.append_nil _).symm, List.prefix_refl _⟩

lemma bind (h : Writes writing parameters) (hnext : ∀ a, Writes (next a) more) :
    Writes (writing >>= next) (parameters ++ more) := by
  intro naming
  have hrun : (writing >>= next).run naming =
      (next (writing.run naming).1).run (writing.run naming).2 := rfl
  obtain ⟨hlisted, hnames⟩ := h naming
  obtain ⟨hmore, hlater⟩ := hnext (writing.run naming).1 (writing.run naming).2
  rw [hrun]
  exact ⟨by rw [hmore, hlisted, List.append_assoc], hnames.trans hlater⟩

lemma bind_nil (h : Writes writing []) (hnext : ∀ a, Writes (next a) more) :
    Writes (writing >>= next) more :=
  h.bind hnext

lemma bind_end (h : Writes writing parameters) (hnext : ∀ a, Writes (next a) []) :
    Writes (writing >>= next) parameters := by
  have hbind := h.bind hnext
  rwa [List.append_nil] at hbind

lemma bind_pure (h : Writes writing parameters) (f : α → β) :
    Writes (do return f (← writing)) parameters :=
  h.bind_end fun a => pure (f a)

/-- A name is no parameter. -/
lemma nameOf (thing : Named) : Writes (nameOf thing) [] := by
  intro naming
  have hrun : ((FilterQuery.Sql.nameOf thing).run naming).2 = (naming.number thing).2 := rfl
  rw [hrun, Naming.number, List.append_nil]
  split
  · exact ⟨rfl, List.prefix_refl _⟩
  · exact ⟨rfl, List.prefix_append _ _⟩

/-- A question mark stands for its parameter. -/
lemma placeholder (parameter : Parameter) : Writes (placeholder parameter) [parameter] :=
  fun _ => ⟨rfl, List.prefix_refl _⟩

/-- Parts that are written one after the other list their parameters one after the other. -/
lemma mapM {parts : List (Writing String)} {listed : List (List Parameter)}
    (h : List.Forall₂ Writes parts listed) : Writes (parts.mapM id) listed.flatten := by
  induction h with
  | nil => exact pure _
  | cons hpart _ ih =>
      rw [List.mapM_cons, List.flatten_cons]
      exact hpart.bind fun _ => ih.bind_pure _

lemma joined {separator : String} {parts : List (Writing String)} {listed : List (List Parameter)}
    (h : List.Forall₂ Writes parts listed) : Writes (joined separator parts) listed.flatten :=
  (mapM h).bind_pure _

/-- Parts that list nothing list nothing together. -/
lemma joined_none {separator : String} {parts : List (Writing String)}
    (h : ∀ part ∈ parts, Writes part []) : Writes (FilterQuery.Sql.joined separator parts) [] := by
  have hparts : List.Forall₂ Writes parts (parts.map fun _ => []) :=
    List.forall₂_map_right_iff.mpr (List.forall₂_same.mpr h)
  have hjoined : Writes (FilterQuery.Sql.joined separator parts)
      (parts.map fun _ => ([] : List Parameter)).flatten := joined hparts
  simpa using hjoined

lemma joined_nil {γ : Type} {separator : String} {parts : List γ} {write : γ → Writing String}
    (h : ∀ part ∈ parts, Writes (write part) []) :
    Writes (FilterQuery.Sql.joined separator (parts.map write)) [] :=
  joined_none (List.forall_mem_map.mpr h)

end Writes

/-! ## Parts of a statement -/

/-- The parameters of a condition on a column. -/
def Predicate.parameters : Predicate ColumnRef → List Parameter
  | .compare column _ value => [.given column.type value]
  | .flag .. => []
  | .isNull .. => []
  | .contains column _ pattern => [.given column.type (.str pattern)]

/-- The parameters of a condition of a statement. -/
def Condition.parameters : Condition → List Parameter
  | .test predicate => predicate.parameters
  | .exists related => related.predicates.flatMap Predicate.parameters
  | .written .. => []

lemma writes_sourceText (source : Source) : Writes (sourceText source) [] := by
  rw [sourceText]
  split
  · exact .pure _
  · exact (Writes.nameOf _).bind_pure _

lemma writes_introduced (source : Source) : Writes (introduced source) [] := by
  rw [introduced]
  split
  · exact .pure _
  · exact (writes_sourceText source).bind_pure _

lemma writes_placeText (place : Place) : Writes (placeText place) [] :=
  (writes_sourceText place.source).bind_pure _

lemma writes_test (predicate : Predicate ColumnRef) :
    Writes (writeTest predicate) predicate.parameters := by
  refine (writes_placeText _).bind_nil fun column => ?_
  cases predicate with
  | compare subject comparison value =>
      exact ((Writes.placeholder _).bind_pure _).bind_pure _
  | flag subject isNegated truth => exact .pure _
  | isNull subject isNegated => exact .pure _
  | contains subject ignoreCase pattern =>
      exact ((Writes.placeholder _).bind_pure _).bind_pure _

lemma writes_equalities (equalities : List (Place × Place)) :
    Writes (writeEqualities equalities) [] :=
  Writes.joined_nil fun pair _ =>
    (writes_placeText pair.1).bind_nil fun _ => (writes_placeText pair.2).bind_pure _

lemma writes_join (join : Join) : Writes (writeJoin join) [] :=
  (writes_introduced _).bind_nil fun _ => (writes_equalities _).bind_pure _

lemma writes_chain (first : Source) (joins : List Join) : Writes (writeChain first joins) [] :=
  (writes_introduced _).bind_nil fun _ =>
    (Writes.joined_nil fun join _ => writes_join join).bind_pure _

lemma writes_where {conditions : List (Writing String)} {listed : List (List Parameter)}
    (h : List.Forall₂ Writes conditions listed) :
    Writes (writeWhere conditions) listed.flatten := by
  rw [writeWhere]
  cases h with
  | nil => exact .pure _
  | cons hfirst hrest => exact (Writes.joined (.cons hfirst hrest)).bind_pure _

lemma writes_related (outside : List Source) (related : Related) :
    Writes (writeRelated outside related) (Condition.parameters (.exists related)) := by
  have hconditions : List.Forall₂ Writes
      (related.correlation.map (fun pair => writeEqualities [pair])
        ++ related.predicates.map writeTest)
      (related.correlation.map (fun _ => []) ++ related.predicates.map Predicate.parameters) := by
    refine List.rel_append ?_ ?_
    · exact List.forall₂_map_left_iff.mpr (List.forall₂_map_right_iff.mpr
        (List.forall₂_same.mpr fun pair _ => writes_equalities [pair]))
    · exact List.forall₂_map_left_iff.mpr (List.forall₂_map_right_iff.mpr
        (List.forall₂_same.mpr fun predicate _ => writes_test predicate))
  have hwhere := writes_where hconditions
  simp only [List.flatten_append, List.map_const', List.flatten_replicate_nil, List.nil_append,
    ← List.flatMap_def] at hwhere
  refine (Writes.joined_nil fun column _ => writes_placeText _).bind_nil fun _ => ?_
  refine (writes_chain _ _).bind_nil fun _ => ?_
  refine (Writes.joined_nil fun source _ => (writes_introduced source).bind_pure _).bind_nil
    fun _ => ?_
  exact hwhere.bind_pure _

lemma writes_conditions (outside : List Source) (conditions : List Condition) :
    Writes (writeConditions outside conditions) (conditions.flatMap Condition.parameters) := by
  rw [List.flatMap_def]
  refine writes_where (List.forall₂_map_left_iff.mpr (List.forall₂_map_right_iff.mpr
    (List.forall₂_same.mpr fun condition _ => ?_)))
  cases condition with
  | test predicate => exact writes_test predicate
  | «exists» related => exact (writes_related outside related).bind_pure _
  | written text sources => exact .pure _

/-- The parameters of an ordering term: those that its raw text names. -/
def OrderTerm.parameters : OrderTerm → List Parameter
  | .text raw => (RawText.pieces raw).flatMap fun piece =>
    match piece with
    | .plain _ => []
    | .bind name => [.missing name]
  | _ => []

/-- The parameters of limits. -/
def limitParameters (limit offset : Option Int) : List Parameter :=
  if limit.isNone && offset.isNone then []
  else [.given .integer (.int (limit.getD (-1))), .given .integer (.int (offset.getD 0))]

lemma writes_raw (raw : String) : Writes (writeRaw raw) (OrderTerm.parameters (.text raw)) := by
  rw [writeRaw, OrderTerm.parameters, List.flatMap_def]
  refine Writes.joined (List.forall₂_map_left_iff.mpr (List.forall₂_map_right_iff.mpr
    (List.forall₂_same.mpr fun piece _ => ?_)))
  cases piece with
  | plain c => exact .pure _
  | bind name => exact .placeholder _

lemma writes_orderTerm {column : Place → Writing String}
    (hcolumn : ∀ place, Writes (column place) []) (term : OrderTerm) :
    Writes (writeOrderTerm column term) term.parameters := by
  cases term with
  | column ref descending emptyFirst => exact (hcolumn _).bind_pure _
  | text raw => exact writes_raw raw
  | null => exact .pure _
  | flag truth => exact .pure _

/-- A term for which nothing is written has no parameters. -/
lemma OrderTerm.parameters_of_isEmptyText {term : OrderTerm} (h : term.isEmptyText = true) :
    term.parameters = [] := by
  cases term with
  | text raw =>
      have hraw : raw.toList = [] := by simpa [isEmptyText] using h
      simp [parameters, RawText.pieces, hraw, RawText.piecesAfter]
  | _ => rfl

lemma writes_order {column : Place → Writing String} (hcolumn : ∀ place, Writes (column place) [])
    (order : List OrderTerm) :
    Writes (writeOrder column order) (order.flatMap OrderTerm.parameters) := by
  have hkept : order.flatMap OrderTerm.parameters =
      ((order.filter (!·.isEmptyText)).map OrderTerm.parameters).flatten := by
    rw [← List.flatMap_def]
    induction order with
    | nil => rfl
    | cons term rest ih =>
        by_cases hempty : term.isEmptyText = true
        · simp [hempty, OrderTerm.parameters_of_isEmptyText hempty, ih]
        · simp [hempty, ih]
  rw [hkept]
  unfold writeOrder
  simp only
  split
  · rename_i hnone
    rw [List.isEmpty_iff.mp hnone]
    exact .pure _
  · exact (Writes.joined (List.forall₂_map_left_iff.mpr (List.forall₂_map_right_iff.mpr
      (List.forall₂_same.mpr fun term _ => writes_orderTerm hcolumn term)))).bind_pure _

lemma writes_limits (limit offset : Option Int) :
    Writes (writeLimits limit offset) (limitParameters limit offset) := by
  rw [writeLimits, limitParameters]
  split
  · exact .pure _
  · exact (Writes.placeholder _).bind fun _ => (Writes.placeholder _).bind_pure _

/-! ## Statements -/

/-- The parameters of a statement. -/
def Statement.parameters (statement : Statement) : List Parameter :=
  statement.conditions.flatMap Condition.parameters ++
    (statement.order.flatMap OrderTerm.parameters ++
      limitParameters statement.limit statement.offset)

lemma writes_labelText (shown : Shown) : Writes shown.labelText [] := by
  rw [Shown.labelText]
  split
  · exact .nameOf _
  · exact .pure _

lemma writes_shown (inSubquery : Bool) (shown : Shown) : Writes (shown.text inSubquery) [] := by
  refine (writes_placeText _).bind_nil fun column => ?_
  dsimp only
  split
  · exact (writes_labelText shown).bind_pure _
  · exact .pure _

lemma writes_sources (statement : Statement) {behindFirst : Writing String}
    (h : Writes behindFirst []) : Writes (writeSources statement behindFirst) [] := by
  rw [writeSources]
  split
  · exact .pure _
  · rename_i first others hsources
    have hrest : ∀ chain : String, Writes (do
        let behind ← behindFirst
        return " \nFROM " ++ chain ++ behind
          ++ (← joined "" (others.map fun source => return ", " ++ (← introduced source)))) [] :=
      fun chain => h.bind_nil fun _ =>
        (Writes.joined_nil fun source _ => (writes_introduced source).bind_pure _).bind_pure _
    dsimp only
    split
    · exact (writes_introduced _).bind_nil hrest
    · exact (writes_chain _ _).bind_nil hrest

lemma writes_plain (inSubquery : Bool) (statement : Statement) (shown : List Shown)
    {behindFirst : Writing String} {moreOrder : List OrderTerm} (hbehind : Writes behindFirst [])
    (hmore : moreOrder.flatMap OrderTerm.parameters = []) :
    Writes (writePlain inSubquery statement shown behindFirst moreOrder) statement.parameters := by
  have horder := writes_order writes_placeText (statement.order ++ moreOrder)
  rw [List.flatMap_append, hmore, List.append_nil] at horder
  refine (Writes.joined_nil fun column _ => writes_shown inSubquery column).bind_nil fun _ => ?_
  refine (writes_sources statement hbehind).bind_nil fun _ => ?_
  refine (writes_conditions _ _).bind fun _ => ?_
  exact horder.bind fun _ => (writes_limits _ _).bind_pure _

lemma writes_eagerJoin {holder : Place → Writing String} (eager : Eager)
    (hholder : ∀ place, Writes (holder place) []) : Writes (writeEagerJoin holder eager) [] := by
  have hon : ∀ equalities : List (Place × Place), Writes
      (joined " AND " (equalities.map fun pair => do
        let side (place : Place) : Writing String :=
          if place.source = eager.holder then holder place else placeText place
        return (← side pair.1) ++ " = " ++ (← side pair.2))) [] := by
    intro equalities
    have hside : ∀ place : Place, Writes
        (if place.source = eager.holder then holder place else placeText place) [] := by
      intro place
      split
      · exact hholder place
      · exact writes_placeText place
    exact Writes.joined_nil fun pair _ => (hside pair.1).bind_nil fun _ => (hside pair.2).bind_pure _
  rw [writeEagerJoin]
  dsimp only
  split
  · refine (writes_introduced _).bind_nil fun _ => (writes_introduced _).bind_nil fun _ => ?_
    exact (hon _).bind_nil fun _ => (hon _).bind_pure _
  · exact Writes.joined_nil fun join _ => (writes_introduced _).bind_nil fun _ => (hon _).bind_pure _

/-- The declared order of children has no parameters. -/
lemma parameters_orderTerms (eager : Eager) :
    eager.orderTerms.flatMap OrderTerm.parameters = [] := by
  rw [List.flatMap_eq_nil_iff]
  intro term hterm
  obtain ⟨⟨column, isDescending⟩, -, rfl⟩ := List.mem_map.mp hterm
  rfl

/-- A column outside of the subquery that a limited statement becomes. -/
def outsideText (inner : List Shown) (place : Place) : Writing String := do
  match inner.find? fun column => column.place == place with
  | some column =>
    return (← nameOf .subquery) ++ "." ++ Identifier.write (← column.labelText)
  | none => placeText place

/-- The columns in front of that subquery. -/
def outsideColumns (inner : List Shown) (eager : Eager) : Writing String :=
  joined ", "
    (inner.map (fun column =>
        return (← nameOf .subquery) ++ "." ++ Identifier.write (← column.labelText))
      ++ (eager.shown inner).map (Shown.text false))

/-- What stands behind it, with all that stands before it. -/
def writeOutside (statement : Statement) (eager : Eager) (inner : List Shown)
    (columns body : String) : Writing String := do
  let wrapped ← nameOf .subquery
  let children ← writeEagerJoin (outsideText inner) eager
  let order ← writeOrder (fun place =>
    if place.source = eager.source then placeText place else outsideText inner place)
    (statement.order ++ eager.orderTerms)
  return "SELECT " ++ columns ++ " \nFROM (" ++ body ++ ") AS " ++ wrapped ++ children ++ order

lemma writeWrapped_eq (statement : Statement) (eager : Eager) :
    writeWrapped statement eager = (do
      let inner := statement.orderShown statement.shown
      let columns ← outsideColumns inner eager
      let body ← writePlain true statement inner (return "") []
      writeOutside statement eager inner columns body) :=
  rfl

lemma writes_label (column : Shown) : Writes
    (do return (← nameOf .subquery) ++ "." ++ Identifier.write (← column.labelText)) [] :=
  (Writes.nameOf _).bind_nil fun _ => (writes_labelText column).bind_pure _

lemma writes_outsideText (inner : List Shown) (place : Place) :
    Writes (outsideText inner place) [] := by
  rw [outsideText]
  split
  · exact writes_label _
  · exact writes_placeText place

lemma writes_outsideColumns (inner : List Shown) (eager : Eager) :
    Writes (outsideColumns inner eager) [] := by
  refine Writes.joined_none (List.forall_mem_append.mpr ⟨?_, ?_⟩)
  · exact List.forall_mem_map.mpr fun column _ => writes_label column
  · exact List.forall_mem_map.mpr fun column _ => writes_shown false column

/-- Behind the subquery stands the ordering, for the second time. -/
lemma writes_outside (statement : Statement) (eager : Eager) (inner : List Shown)
    (columns body : String) :
    Writes (writeOutside statement eager inner columns body)
      (statement.order.flatMap OrderTerm.parameters) := by
  have hcolumn : ∀ place : Place, Writes
      (if place.source = eager.source then placeText place else outsideText inner place) [] := by
    intro place
    split
    · exact writes_placeText place
    · exact writes_outsideText inner place
  have horder := writes_order hcolumn (statement.order ++ eager.orderTerms)
  rw [List.flatMap_append, parameters_orderTerms, List.append_nil] at horder
  refine (Writes.nameOf _).bind_nil fun _ => ?_
  refine (writes_eagerJoin eager (writes_outsideText inner)).bind_nil fun _ => ?_
  exact horder.bind_pure _

lemma writes_wrapped (statement : Statement) (eager : Eager) :
    Writes (writeWrapped statement eager)
      (statement.parameters ++ statement.order.flatMap OrderTerm.parameters) := by
  rw [writeWrapped_eq]
  refine (writes_outsideColumns _ eager).bind_nil fun columns => ?_
  refine (writes_plain true statement _ (.pure _) rfl).bind fun body => ?_
  exact writes_outside statement eager _ columns body

/-- **Statements.**  A statement lists the parameters of its conditions, its ordering and its limits.
Where children are joined to a limited statement, the ordering stands there twice. -/
theorem writes_statement (statement : Statement) :
    ∃ again : List Parameter, again ⊆ statement.order.flatMap OrderTerm.parameters ∧
      Writes (writeStatement statement) (statement.parameters ++ again) := by
  rw [writeStatement]
  split
  · exact ⟨[], List.nil_subset _, by
      rw [List.append_nil]; exact writes_plain false statement _ (.pure _) rfl⟩
  · rename_i eager heager
    split
    · exact ⟨_, List.Subset.refl _, writes_wrapped statement eager⟩
    · exact ⟨[], List.nil_subset _, by
        rw [List.append_nil]
        exact writes_plain false statement _ (writes_eagerJoin eager writes_placeText)
          (parameters_orderTerms eager)⟩

/-- What the statement is sent with. -/
lemma mem_parameters_written {statement : Statement} {parameter : Parameter} :
    parameter ∈ (Query.rows statement).written.parameters ↔ parameter ∈ statement.parameters := by
  obtain ⟨again, hagain, hwrites⟩ := writes_statement statement
  have hlisted : (Query.rows statement).written.parameters = statement.parameters ++ again :=
    (hwrites .start).1
  rw [hlisted, List.mem_append, or_iff_left_iff_imp]
  intro hmem
  exact List.mem_append_right _ (List.mem_append_left _ (hagain hmem))

/-- An ordering by columns alone. -/
def IsByColumns (order : List OrderTerm) : Prop :=
  ∀ term ∈ order, ∃ column descending emptyFirst, term = .column column descending emptyFirst

/-- An ordering by columns has no parameters, so that it does not matter how often it is written. -/
lemma parameters_written {statement : Statement} (hlimit : statement.limit = none)
    (hoffset : statement.offset = none) (horder : IsByColumns statement.order) :
    (Query.rows statement).written.parameters =
      statement.conditions.flatMap Condition.parameters := by
  have hnone : statement.order.flatMap OrderTerm.parameters = [] := by
    rw [List.flatMap_eq_nil_iff]
    intro term hterm
    obtain ⟨column, descending, emptyFirst, rfl⟩ := horder term hterm
    rfl
  obtain ⟨again, hagain, hwrites⟩ := writes_statement statement
  rw [hnone, List.subset_nil] at hagain
  subst hagain
  have hlisted : (Query.rows statement).written.parameters = statement.parameters ++ [] :=
    (hwrites .start).1
  simp [hlisted, Statement.parameters, hnone, limitParameters, hlimit, hoffset]

end FilterQuery.Sql
