import Mathlib.Data.List.Forall2
import Mathlib.Tactic.Common
import FilterQuery.Proofs.Parameters
import FilterQuery.Proofs.Parents

/-!
# The text of an ordering

The clauses of an ordering can be texts, which become part of the statement.

**Marks.**  `RawText.IsMark` says by what stands around a character whether it means more than itself:
a colon before a name marks a parameter, and a backslash takes this meaning away.  A text without marks
has its characters for pieces, and one with a mark has fewer (`RawText.pieces_cases`).  Hence a text is
written as it stands exactly if it has no mark: `writeRaw_eq_self_iff`.

**Statements.**  `exists_texts_of_written` says where the texts of an ordering stand in the text of a
statement.

**The last ordering.**  Of the steps of a definition the last one that orders counts
(`Definition.ordering_of_ofSteps`), and it makes no other difference to a query than to stand behind the
ordering of the base (`query_of_gives`).  `ordering_of_query` puts this together.
-/

namespace FilterQuery

open FilterQuery.Sql

/-! ## Marks in raw text -/

namespace Sql.RawText

/-- Word characters that end here: no further one stands behind them, and no colon. -/
structure IsName (name after : List Char) : Prop where
  word : ∀ c ∈ name, Text.isWordChar c = true
  ends : ∀ c ∈ after.head?, c ≠ ':' ∧ Text.isWordChar c = false

/-- A character of a text is a mark, between what stands before it and what stands behind it. -/
inductive IsMark (before : List Char) : Char → List Char → Prop where
  /-- A colon marks a parameter if it stands by itself before a name. -/
  | parameter {name after : List Char} :
      (∀ c ∈ before.getLast?, c ≠ ':' ∧ c ≠ '\\' ∧ Text.isWordChar c = false) →
      name ≠ [] → IsName name after → IsMark before ':' (name ++ after)
  /-- A backslash takes this meaning away from a colon. -/
  | escape {name after : List Char} : IsName name after → IsMark before '\\' (':' :: (name ++ after))

/-- No character of a text is a mark. -/
def IsVerbatim (text : List Char) : Prop :=
  ∀ before c rest, text = before ++ c :: rest → ¬IsMark before c rest

variable {before text rest name after : List Char} {c : Char}

lemma IsName.takeWhile (h : IsName name after) :
    (name ++ after).takeWhile Text.isWordChar = name := by
  rw [List.takeWhile_append_of_pos h.word]
  cases after with
  | nil => rw [List.takeWhile_nil, List.append_nil]
  | cons c rest => rw [List.takeWhile_cons_of_neg (by simp [h.ends c rfl]), List.append_nil]

lemma IsName.dropWhile (h : IsName name after) :
    (name ++ after).dropWhile Text.isWordChar = after := by
  rw [List.dropWhile_append_of_pos h.word]
  cases after with
  | nil => rfl
  | cons c rest => exact List.dropWhile_cons_of_neg (by simp [h.ends c rfl])

lemma IsName.head?_ne (h : IsName name after) : after.head? ≠ some ':' := fun hcolon =>
  (h.ends ':' hcolon).1 rfl

/-- The word characters that a text begins with are a name, unless a colon follows them. -/
lemma isName_of_head?_ne (h : (rest.dropWhile Text.isWordChar).head? ≠ some ':') :
    IsName (rest.takeWhile Text.isWordChar) (rest.dropWhile Text.isWordChar) := by
  refine ⟨List.all_eq_true.mp List.all_takeWhile, fun c hc => ⟨?_, ?_⟩⟩
  · rintro rfl
    exact h hc
  · have hfirst := List.head?_dropWhile_not Text.isWordChar rest
    rw [Option.mem_def.mp hc] at hfirst
    simpa using hfirst

lemma name?_eq_some : name? rest = some name ↔
    ∃ after, rest = name ++ after ∧ name ≠ [] ∧ IsName name after := by
  rw [name?]
  constructor
  · intro h
    split_ifs at h with hnone
    obtain rfl := Option.some.inj h
    simp only [Bool.or_eq_true, not_or, List.isEmpty_iff, beq_iff_eq] at hnone
    exact ⟨rest.dropWhile Text.isWordChar, (List.takeWhile_append_dropWhile).symm, hnone.1,
      isName_of_head?_ne hnone.2⟩
  · rintro ⟨after, rfl, hsome, hname⟩
    rw [hname.takeWhile, hname.dropWhile]
    simp [hsome, hname.head?_ne]

lemma isEscape_iff : isEscape rest = true ↔
    ∃ name after, rest = ':' :: (name ++ after) ∧ IsName name after := by
  constructor
  · intro h
    unfold isEscape at h
    split at h
    · rename_i behind
      refine ⟨_, _, ?_, isName_of_head?_ne (by simpa using h)⟩
      rw [List.takeWhile_append_dropWhile]
    · cases h
  · rintro ⟨name, after, rfl, hname⟩
    rw [isEscape, hname.dropWhile]
    simpa using hname.head?_ne

lemma canPrecede_iff {before : Option Char} : canPrecede before = true ↔
    ∀ c ∈ before, c ≠ ':' ∧ c ≠ '\\' ∧ Text.isWordChar c = false := by
  cases before with
  | none => simp [canPrecede]
  | some c => simp [canPrecede, and_assoc]

/-! ### Pieces -/

/-- What is no mark is taken over. -/
lemma piecesAfter_of_not_isMark (h : ¬IsMark before c rest) :
    piecesAfter before.getLast? 0 (c :: rest) = .plain c :: piecesAfter (some c) 0 rest := by
  rw [piecesAfter, if_neg (by simp)]
  split_ifs with hcolon hescape
  · rw [Bool.and_eq_true, decide_eq_true_eq, canPrecede_iff] at hcolon
    obtain ⟨rfl, hbefore⟩ := hcolon
    cases hname : name? rest with
    | none => rfl
    | some name =>
        obtain ⟨after, rfl, hsome, hends⟩ := name?_eq_some.mp hname
        exact absurd (.parameter hbefore hsome hends) h
  · rw [Bool.and_eq_true, decide_eq_true_eq, isEscape_iff] at hescape
    obtain ⟨rfl, name, after, rfl, hends⟩ := hescape
    exact absurd (.escape hends) h
  · rfl

/-- There are no more pieces than characters, less those of a name that was read already. -/
lemma length_piecesAfter_le (last : Option Char) (skip : Nat) (text : List Char) :
    (piecesAfter last skip text).length ≤ text.length - skip := by
  induction text generalizing last skip with
  | nil => exact Nat.zero_le _
  | cons c rest ih =>
      rw [piecesAfter]
      split_ifs with hskip hcolon hescape
      · have hrest := ih (some c) (skip - 1)
        rw [List.length_cons]
        omega
      -- From here on nothing is skipped, and only a parameter makes the rest skip its name.
      all_goals obtain rfl : skip = 0 := not_not.mp hskip
      · cases hname : name? rest with
        | none => exact Nat.succ_le_succ (ih (some c) 0)
        | some name =>
            have hrest := ih (some c) name.length
            simp only [List.length_cons]
            omega
      · exact (ih (some c) 0).trans (Nat.le_succ _)
      · exact Nat.succ_le_succ (ih (some c) 0)

/-- A mark does not stand for itself alone: it takes its name along, or is left out. -/
lemma length_piecesAfter_of_isMark (h : IsMark before c rest) :
    (piecesAfter before.getLast? 0 (c :: rest)).length < (c :: rest).length := by
  cases h with
  | @parameter name after hbefore hsome hends =>
      have hname : name? (name ++ after) = some name :=
        name?_eq_some.mpr ⟨after, rfl, hsome, hends⟩
      have hrest := length_piecesAfter_le (some ':') name.length (name ++ after)
      have hlength := List.length_pos_iff.mpr hsome
      rw [piecesAfter, if_neg (by simp), if_pos (by simp [canPrecede_iff.mpr hbefore])]
      simp only [hname, List.length_cons, List.length_append] at hrest ⊢
      omega
  | @escape name after hends =>
      have hescape : isEscape (':' :: (name ++ after)) = true := isEscape_iff.mpr ⟨_, _, rfl, hends⟩
      have hrest := length_piecesAfter_le (some '\\') 0 (':' :: (name ++ after))
      rw [piecesAfter, if_neg (by simp), if_neg (by simp), if_pos (by simp [hescape])]
      rw [List.length_cons]
      omega

/-- A text without marks is taken over character by character. -/
lemma piecesAfter_of_verbatim (before : List Char)
    (h : ∀ between c rest, text = between ++ c :: rest → ¬IsMark (before ++ between) c rest) :
    piecesAfter before.getLast? 0 text = text.map Piece.plain := by
  -- The text is what is left to read; what was read moves on to `before`.
  induction text generalizing before with
  | nil => rfl
  | cons c rest ih =>
      have hfirst : ¬IsMark before c rest := by simpa using h [] c rest rfl
      have hrest : piecesAfter (before ++ [c]).getLast? 0 rest = rest.map Piece.plain := by
        refine ih _ fun between d behind hbehind => ?_
        simpa using h (c :: between) d behind (by rw [hbehind, List.cons_append])
      rw [List.getLast?_concat] at hrest
      rw [piecesAfter_of_not_isMark hfirst, hrest, List.map_cons]

/-- One with a mark is not: it has fewer pieces than characters. -/
lemma length_piecesAfter_lt (before : List Char)
    (h : ∃ between c rest, text = between ++ c :: rest ∧ IsMark (before ++ between) c rest) :
    (piecesAfter before.getLast? 0 text).length < text.length := by
  obtain ⟨between, c, rest, rfl, hmark⟩ := h
  induction between generalizing before with
  | nil => exact length_piecesAfter_of_isMark (by simpa using hmark)
  | cons d between ih =>
      rw [List.cons_append]
      by_cases hfirst : IsMark before d (between ++ c :: rest)
      · exact length_piecesAfter_of_isMark hfirst
      · have hrest : (piecesAfter (before ++ [d]).getLast? 0 (between ++ c :: rest)).length <
            (between ++ c :: rest).length := ih _ (by simpa using hmark)
        rw [List.getLast?_concat] at hrest
        rw [piecesAfter_of_not_isMark hfirst, List.length_cons, List.length_cons]
        exact Nat.succ_lt_succ hrest

/-- The pieces of a text are its characters, or else they are fewer. -/
lemma pieces_cases (raw : String) :
    (IsVerbatim raw.toList ∧ pieces raw = raw.toList.map Piece.plain) ∨
      (¬IsVerbatim raw.toList ∧ (pieces raw).length < raw.toList.length) := by
  by_cases h : IsVerbatim raw.toList
  · exact .inl ⟨h, piecesAfter_of_verbatim [] (by simpa [IsVerbatim] using h)⟩
  · refine .inr ⟨h, length_piecesAfter_lt [] ?_⟩
    simpa [IsVerbatim] using h

lemma isVerbatim_of_not_mem (hcolon : ':' ∉ text) (hbackslash : '\\' ∉ text) :
    IsVerbatim text := by
  rintro before c rest rfl hmark
  have hc : c ∈ before ++ c :: rest := List.mem_append_right _ List.mem_cons_self
  cases hmark with
  | parameter => exact hcolon hc
  | escape => exact hbackslash hc

end Sql.RawText

/-! ## Written texts -/

namespace Sql

/-- A piece where it is written. -/
def RawText.Piece.write : RawText.Piece → Writing String
  | .plain c => return String.singleton c
  | .bind name => placeholder (.missing name)

/-- The character that is written for a piece. -/
def RawText.Piece.shown : RawText.Piece → Char
  | .plain c => c
  | .bind _ => '?'

open RawText

lemma writeRaw_eq (raw : String) : writeRaw raw = joined "" ((pieces raw).map Piece.write) :=
  rfl

lemma run_joined (separator : String) (parts : List (Writing String)) (naming : Naming) :
    (joined separator parts).run naming =
      (separator.intercalate ((parts.mapM id).run naming).1, ((parts.mapM id).run naming).2) :=
  rfl

lemma run_mapM_cons (part : Writing String) (rest : List (Writing String)) (naming : Naming) :
    ((part :: rest).mapM id).run naming =
      ((part.run naming).1 :: ((rest.mapM id).run (part.run naming).2).1,
        ((rest.mapM id).run (part.run naming).2).2) := by
  rw [List.mapM_cons]
  rfl

lemma texts_of_pieces (pieces : List Piece) (naming : Naming) :
    (((pieces.map Piece.write).mapM id).run naming).1 =
      pieces.map fun piece => String.singleton piece.shown := by
  induction pieces generalizing naming with
  | nil => rfl
  | cons piece rest ih =>
      have hfirst : (piece.write.run naming).1 = String.singleton piece.shown := by
        cases piece <;> rfl
      rw [List.map_cons, run_mapM_cons, ih, hfirst, List.map_cons]

lemma intercalate_singletons (chars : List Char) :
    "".intercalate (chars.map String.singleton) = String.ofList chars := by
  induction chars with
  | nil => rfl
  | cons c rest ih =>
      rw [List.map_cons, String.ofList_cons, ← ih]
      cases rest with
      | nil => simp
      | cons d behind => rw [String.intercalate_cons_of_ne_nil (by simp), String.append_empty]

/-- Pieces that are characters are written as they stand, and list nothing. -/
lemma run_of_plain (chars : List Char) (naming : Naming) :
    (((chars.map Piece.plain).map Piece.write).mapM id).run naming =
      (chars.map String.singleton, naming) := by
  induction chars with
  | nil => rfl
  | cons c rest ih =>
      have hfirst : (Piece.plain c).write.run naming = (String.singleton c, naming) := rfl
      rw [List.map_cons, List.map_cons, run_mapM_cons, hfirst, ih, List.map_cons]

/-- **Raw text** without marks is written character by character, and lists no parameter. -/
lemma run_writeRaw {raw : String} (h : IsVerbatim raw.toList) (naming : Naming) :
    (writeRaw raw).run naming = (raw, naming) := by
  obtain ⟨-, hpieces⟩ | ⟨hmark, -⟩ := pieces_cases raw
  · rw [writeRaw_eq, run_joined, hpieces, run_of_plain, intercalate_singletons, String.ofList_toList]
  · exact absurd h hmark

lemma RawText.parameters_of_verbatim {raw : String} (h : IsVerbatim raw.toList) :
    (OrderTerm.text raw).parameters = [] := by
  obtain ⟨-, hpieces⟩ | ⟨hmark, -⟩ := pieces_cases raw
  · simp [OrderTerm.parameters, hpieces]
  · exact absurd h hmark

lemma text_of_writeRaw (raw : String) (naming : Naming) :
    ((writeRaw raw).run naming).1 = String.ofList ((pieces raw).map Piece.shown) := by
  have hcompose : ((pieces raw).map fun piece => String.singleton piece.shown) =
      ((pieces raw).map Piece.shown).map String.singleton := by
    rw [List.map_map]
    rfl
  rw [writeRaw_eq, run_joined, texts_of_pieces, hcompose, intercalate_singletons]

/-- With a mark, something else is written. -/
lemma writeRaw_eq_self_iff {raw : String} (naming : Naming) :
    ((writeRaw raw).run naming).1 = raw ↔ IsVerbatim raw.toList := by
  refine ⟨fun hsame => ?_, fun h => by rw [run_writeRaw h]⟩
  obtain ⟨h, -⟩ | ⟨-, hlength⟩ := pieces_cases raw
  · exact h
  · -- One character is written for each piece, so that there would be a piece for each character.
    have hshown : (pieces raw).map Piece.shown = raw.toList := by
      rw [← hsame, text_of_writeRaw, String.toList_ofList, ← text_of_writeRaw raw naming, hsame]
    rw [← hshown, List.length_map] at hlength
    exact absurd hlength (lt_irrefl _)

/-! ### Behind `ORDER BY` -/

/-- What is written for a term, with the names chosen so far. -/
def OrderTerm.IsWritten (term : OrderTerm) (text : String) : Prop :=
  ∃ naming, ((writeOrderTerm placeText term).run naming).1 = text

/-- The texts of the terms, with what stands before and between them. -/
def orderText (texts : List String) : String :=
  if texts.isEmpty then "" else " ORDER BY " ++ ", ".intercalate texts

lemma forall₂_isWritten (terms : List OrderTerm) (naming : Naming) :
    List.Forall₂ OrderTerm.IsWritten terms
      (((terms.map (writeOrderTerm placeText)).mapM id).run naming).1 := by
  induction terms generalizing naming with
  | nil => exact .nil
  | cons term rest ih =>
      rw [List.map_cons, run_mapM_cons]
      exact .cons ⟨naming, rfl⟩ (ih _)

lemma exists_texts_of_writeOrder (order : List OrderTerm) (naming : Naming) :
    ∃ texts, List.Forall₂ OrderTerm.IsWritten (order.filter (!·.isEmptyText)) texts ∧
      ((writeOrder placeText order).run naming).1 = orderText texts := by
  refine ⟨_, forall₂_isWritten _ naming, ?_⟩
  have hlength := (forall₂_isWritten (order.filter (!·.isEmptyText)) naming).length_eq
  unfold writeOrder
  simp only
  split
  · rename_i hnone
    rw [List.isEmpty_iff.mp hnone]
    rfl
  · rename_i hsome
    rw [orderText, if_neg]
    · rfl
    · rw [List.isEmpty_iff_length_eq_zero, ← hlength, ← List.isEmpty_iff_length_eq_zero]
      exact hsome

lemma text_of_writeLimits (limit offset : Option Int) (naming naming' : Naming) :
    ((writeLimits limit offset).run naming).1 = ((writeLimits limit offset).run naming').1 := by
  rw [writeLimits]
  split <;> rfl

/-- What is written before the ordering, from the start. -/
def beforeOrder (statement : Statement) : Writing String := do
  let columns ← joined ", " (statement.shown.map (Shown.text false))
  let sources ← writeSources statement (return "")
  let conditions ← writeConditions statement.sources statement.conditions
  return "SELECT " ++ (if statement.distinct then "DISTINCT " else "") ++ columns ++ sources
    ++ conditions

lemma text_of_written {statement : Statement} (heager : statement.eager = none) :
    (Query.rows statement).written.text =
      ((beforeOrder statement).run .start).1 ++
        ((writeOrder placeText statement.order).run ((beforeOrder statement).run .start).2).1 ++
        ((writeLimits statement.limit statement.offset).run .start).1 := by
  have hwritten : (Query.rows statement).written.text =
      ((writePlain false statement statement.shown (return "") []).run .start).1 := by
    rw [Query.written, writeQuery, writeStatement, heager]
    rfl
  rw [hwritten, text_of_writeLimits _ _ .start ((writeOrder placeText statement.order).run
    ((beforeOrder statement).run .start).2).2]
  rw [writePlain, List.append_nil]
  rfl

/-- **The ordering in the statement.**  The ordering stands in the text of a statement between what the
text would be without it. -/
lemma exists_texts_of_written {statement : Statement} (heager : statement.eager = none) :
    ∃ front texts back,
      (Query.rows { statement with order := [] }).written.text = front ++ back ∧
      (Query.rows statement).written.text = front ++ orderText texts ++ back ∧
      List.Forall₂ OrderTerm.IsWritten (statement.order.filter (!·.isEmptyText)) texts := by
  obtain ⟨texts, hwritten, htexts⟩ :=
    exists_texts_of_writeOrder statement.order ((beforeOrder statement).run .start).2
  have hplain : { statement with order := [] }.eager = none := heager
  refine ⟨((beforeOrder statement).run .start).1, texts,
    ((writeLimits statement.limit statement.offset).run .start).1, ?_, ?_, hwritten⟩
  · rw [text_of_written hplain]
    have hnothing : ∀ naming, ((writeOrder placeText []).run naming).1 = "" := fun _ => rfl
    rw [hnothing, String.append_empty]
    rfl
  · rw [text_of_written heager, htexts]

end Sql

/-! ## The last ordering -/

/-- The clauses of a step that orders. -/
def Declaration.clauses? : Declaration → Option (List OrderClause)
  | .field .. => none
  | .order clauses => some clauses

/-- A clause that is a text or a column, with the term that it gives. -/
inductive OrderClause.Gives : OrderClause → OrderTerm → Prop where
  | column (ref : ColumnRef) (descending emptyFirst : Option Bool) :
      Gives (.column ref descending emptyFirst) (.column ref descending emptyFirst)
  | text (raw : String) : Gives (.text raw) (.text raw)

/-- Clauses that are texts or columns. -/
def AreTextsAndColumns (clauses : List OrderClause) : Prop :=
  ∀ value, OrderClause.value value ∉ clauses

namespace Definition

/-- The clauses of the last step that orders; none, if no step does. -/
def lastClauses (steps : List Declaration) : List OrderClause :=
  (steps.filterMap Declaration.clauses?).getLast?.getD []

/-- The definition without its ordering. -/
def unordered (definition : Definition) : Definition :=
  { definition with ordering := [] }

@[simp]
lemma ordering_unordered (definition : Definition) : definition.unordered.ordering = [] := rfl

lemma ofSteps_concat (steps : List Declaration) (step : Declaration) :
    ofSteps (steps ++ [step]) = ofSteps steps >>= fun definition => declare definition step := by
  rw [ofSteps, extend, List.foldlM_append]
  refine bind_congr fun definition => ?_
  rw [List.foldlM_cons]
  exact bind_pure (declare definition step)

/-- A step that orders replaces the ordering, and no other step changes it. -/
lemma ordering_of_declare {definition next : Definition} {step : Declaration}
    (h : declare definition step = .ok next) :
    next.ordering = step.clauses?.getD definition.ordering := by
  cases step with
  | order clauses =>
      cases h
      rfl
  | field path operators named =>
      rw [declare] at h
      cases hfield : fieldFilter path operators named with
      | error fault => simp [hfield, bind, Except.bind] at h
      | ok field =>
          simp only [hfield, bind, Except.bind, pure, Except.pure] at h
          cases h
          rfl

/-- **Only the last ordering counts**, by induction from the last step. -/
lemma ordering_of_ofSteps {steps : List Declaration} {definition : Definition}
    (h : ofSteps steps = .ok definition) : definition.ordering = lastClauses steps := by
  induction steps using List.reverseRecOn generalizing definition with
  | nil =>
      cases h
      rfl
  | append_singleton before step ih =>
      rw [ofSteps_concat] at h
      cases hbefore : ofSteps before with
      | error fault => simp [hbefore, bind, Except.bind] at h
      | ok middle =>
          rw [hbefore] at h
          rw [ordering_of_declare h, ih hbefore, lastClauses, lastClauses, List.filterMap_append]
          cases hstep : step.clauses? with
          | none => simp [hstep]
          | some clauses => simp [hstep]

end Definition

/-! ### Orderings that are built -/

lemma exists_terms {clauses : List OrderClause} (h : AreTextsAndColumns clauses) :
    ∃ terms, List.Forall₂ OrderClause.Gives clauses terms := by
  induction clauses with
  | nil => exact ⟨[], .nil⟩
  | cons clause rest ih =>
      obtain ⟨terms, hterms⟩ := ih fun value hvalue => h value (List.mem_cons_of_mem _ hvalue)
      cases clause with
      | column ref descending emptyFirst => exact ⟨_, .cons (.column ref descending emptyFirst) hterms⟩
      | text raw => exact ⟨_, .cons (.text raw) hterms⟩
      | value value => exact absurd List.mem_cons_self (h value)

/-- Such clauses are added to the ordering that is there. -/
lemma Sql.Statement.orderBy_of_gives {clauses : List OrderClause} {terms : List OrderTerm}
    (h : List.Forall₂ OrderClause.Gives clauses terms) (statement : Statement) :
    statement.orderBy clauses = .ok { statement with order := statement.order ++ terms } := by
  have hterms : clauses.mapM OrderClause.term = .ok terms := by
    induction h with
    | nil => rfl
    | cons hclause _ ih =>
        rw [List.mapM_cons, ih]
        cases hclause <;> rfl
  refine Statement.orderBy_of_terms hterms ?_
  rintro rfl
  cases h with
  | cons hclause _ => cases hclause

/-- A statement with terms behind its ordering. -/
def Sql.Statement.orderedBy (statement : Statement) (terms : List OrderTerm) : Statement :=
  { statement with order := statement.order ++ terms }

section Builds

variable {definition : Definition} {terms : List OrderTerm}

/-- A build with such an ordering is one without, and the ordering behind it. -/
lemma build_of_gives (h : List.Forall₂ OrderClause.Gives definition.ordering terms)
    (context : BuildContext) (base : Statement) :
    build context definition base =
      (Statement.orderedBy · terms) <$> build context definition.unordered base := by
  by_cases hroot : base.root = .none
  · simp only [build, hroot]
    rfl
  · rw [build_of_root hroot, build_of_root hroot]
    simp only [map_bind, Definition.ordering_unordered, Statement.orderBy_nil,
      Statement.orderBy_of_gives h]
    rfl

/-- A query that does not order keeps the ordering of its base. -/
lemma order_of_unordered {schema : Schema} {filters : Mapping} {ignoreCase : Bool}
    {base plain : Statement}
    (hplain : (buildFresh ⟨schema, .mapping filters, ignoreCase⟩ definition.unordered base).1 =
      .ok plain) : plain.order = base.order := by
  by_cases hentity : ∃ entity, base.root = .entity entity
  · obtain ⟨entity, hroot⟩ := hentity
    have hcheck := checkAll_of_build hroot (.start schema entity) hplain
    obtain ⟨statement, progress, hbuilt, hrun⟩ := build_run definition.unordered hroot hcheck
    obtain ⟨conditions, hframe⟩ := hbuilt.frame
    rw [hrun, hframe, Definition.ordering_unordered, Statement.orderBy_nil] at hplain
    cases hplain
    rfl
  · obtain ⟨hroot, hnothing⟩ := nothing_of_build (not_exists.mp hentity) hplain
    rw [build_of_nothing hroot hnothing, Definition.ordering_unordered,
      Statement.orderBy_nil] at hplain
    cases hplain
    rfl

/-- **Orderings of texts and columns**: they make no query fail, and stand behind the ordering of the
base. -/
lemma query_of_gives (h : List.Forall₂ OrderClause.Gives definition.ordering terms)
    (schema : Schema) (settings : Settings) (base : Statement) (options : Value) :
    (query schema settings base options (.definition definition)).1 =
      (query schema settings base options (.definition definition.unordered)).1.map
        fun plain => { plain with order := base.order ++ terms } := by
  simp only [query, Configure.build]
  cases Options.filters settings options with
  | error fault => rfl
  | ok filters =>
      have hbuild : (buildFresh ⟨schema, .mapping filters, settings.ignoreCase⟩ definition base).1 =
          (buildFresh ⟨schema, .mapping filters, settings.ignoreCase⟩ definition.unordered base).1.map
            (Statement.orderedBy · terms) := by
        rw [buildFresh, build_of_gives h, run_map]
        rfl
      simp only [hbuild]
      cases hplain : (buildFresh ⟨schema, .mapping filters, settings.ignoreCase⟩
          definition.unordered base).1 with
      | error fault => rfl
      | ok plain =>
          simp only [Except.map, Except.mapError, Statement.orderedBy, order_of_unordered hplain]

end Builds

/-! ## Taken over as it stands -/

lemma parameters_of_gives {clauses : List OrderClause} {terms : List OrderTerm}
    (h : List.Forall₂ OrderClause.Gives clauses terms)
    (hverbatim : ∀ raw, .text raw ∈ terms → RawText.IsVerbatim raw.toList) :
    terms.flatMap OrderTerm.parameters = [] := by
  induction h with
  | nil => rfl
  | cons hclause _ ih =>
      rw [List.flatMap_cons, ih fun raw hraw => hverbatim raw (List.mem_cons_of_mem _ hraw),
        List.append_nil]
      cases hclause with
      | column => rfl
      | text raw => exact RawText.parameters_of_verbatim (hverbatim raw List.mem_cons_self)

/-- **The ordering of a query.**  Texts and columns of the last step that orders make no query fail; they
stand behind the ordering of the base, in order, and there is nothing else in the ordering.  The text of
the statement has them between what it would be without them, but for empty texts.  A text is taken over
as it stands exactly if it has no mark, and then it brings in no parameter. -/
theorem ordering_of_query {steps : List Declaration} {definition : Definition}
    (hdefinition : Definition.ofSteps steps = .ok definition)
    (hclauses : AreTextsAndColumns (Definition.lastClauses steps)) (schema : Schema)
    (settings : Settings) (base : Statement) (options : Value) :
    ∃ terms, List.Forall₂ OrderClause.Gives (Definition.lastClauses steps) terms ∧
      (query schema settings base options (.steps steps)).1 =
        (query schema settings base options (.definition definition.unordered)).1.map
          (fun plain => { plain with order := base.order ++ terms }) ∧
      (∀ raw text, .text raw ∈ terms → OrderTerm.IsWritten (.text raw) text →
        (text = raw ↔ RawText.IsVerbatim raw.toList)) ∧
      ∀ result, (query schema settings base options (.steps steps)).1 = .ok result →
        (result.eager = none → ∃ front texts back,
          (Query.rows { result with order := [] }).written.text = front ++ back ∧
          (Query.rows result).written.text = front ++ orderText texts ++ back ∧
          List.Forall₂ OrderTerm.IsWritten ((base.order ++ terms).filter (!·.isEmptyText)) texts) ∧
        ((∀ raw, .text raw ∈ terms → RawText.IsVerbatim raw.toList) →
          ∀ parameter, parameter ∈ (Query.rows result).written.parameters ↔
            parameter ∈ (Query.rows { result with order := base.order }).written.parameters) := by
  have hordering : definition.ordering = Definition.lastClauses steps :=
    Definition.ordering_of_ofSteps hdefinition
  obtain ⟨terms, hterms⟩ := exists_terms hclauses
  have hquery : (query schema settings base options (.steps steps)).1 =
      (query schema settings base options (.definition definition.unordered)).1.map
        (fun plain => { plain with order := base.order ++ terms }) := by
    rw [query_steps hdefinition]
    exact query_of_gives (hordering ▸ hterms) schema settings base options
  refine ⟨terms, hterms, hquery, fun raw text _ hwritten => ?_, fun result hresult => ?_⟩
  · obtain ⟨naming, rfl⟩ := hwritten
    exact writeRaw_eq_self_iff naming
  · rw [hquery] at hresult
    obtain ⟨plain, -, rfl⟩ := map_eq_ok.mp hresult
    refine ⟨fun heager => ?_, fun hverbatim parameter => ?_⟩
    · exact exists_texts_of_written heager
    · rw [mem_parameters_written, mem_parameters_written]
      simp only [Statement.parameters, List.flatMap_append, parameters_of_gives hterms hverbatim,
        List.append_nil]

/-- Of two orderings the later one counts, behind that of the base, and its text stays as it is. -/
theorem ordering_of_query_posts :
    ∃ result, (query Sample.schema .default
        { Sample.allPosts with order := [.text "posts.author_id"] } .null
        (.steps [.order [.text "posts.id"], .order [.text "posts.posted_date DESC"]])).1 =
          .ok result ∧
      result.order = [.text "posts.author_id", .text "posts.posted_date DESC"] ∧
      ∀ text, OrderTerm.IsWritten (.text "posts.posted_date DESC") text →
        text = "posts.posted_date DESC" := by
  have hdefinition : Definition.ofSteps [.order [.text "posts.id"],
      .order [.text "posts.posted_date DESC"]] = .ok ⟨[], [.text "posts.posted_date DESC"]⟩ := rfl
  obtain ⟨terms, hterms, hquery, hverbatim, -⟩ := ordering_of_query hdefinition
    (fun value hvalue => by cases List.mem_singleton.mp hvalue) Sample.schema .default
    { Sample.allPosts with order := [.text "posts.author_id"] } .null
  have hgiven : List.Forall₂ OrderClause.Gives [.text "posts.posted_date DESC"] terms := hterms
  obtain rfl : terms = [.text "posts.posted_date DESC"] := by
    cases hgiven with
    | cons hclause hrest =>
        cases hclause
        cases hrest
        rfl
  refine ⟨_, hquery.trans rfl, rfl, fun text hwritten => ?_⟩
  exact (hverbatim _ text (List.mem_singleton_self _) hwritten).mpr
    (RawText.isVerbatim_of_not_mem (by decide) (by decide))

/-- An ordering by whether the title is `:draft`. -/
def Sample.byDraft : String :=
  "posts.title = ':draft' DESC"

/-- A colon inside of quotes is a mark all the same: another text is written, with a parameter that
nothing is given for. -/
theorem not_verbatim_of_draft :
    ∃ result, (query Sample.schema .default Sample.allPosts .null
        (.steps [.order [.text Sample.byDraft]])).1 = .ok result ∧
      (∀ text, OrderTerm.IsWritten (.text Sample.byDraft) text → text = "posts.title = '?' DESC") ∧
      .missing "draft" ∈ (Query.rows result).written.parameters := by
  have hshown : (RawText.pieces Sample.byDraft).map RawText.Piece.shown =
      "posts.title = '?' DESC".toList := by decide +kernel
  have hbind : .bind "draft" ∈ RawText.pieces Sample.byDraft := by decide +kernel
  refine ⟨{ Sample.allPosts with order := [.text Sample.byDraft] }, rfl, fun text hwritten => ?_, ?_⟩
  · obtain ⟨naming, rfl⟩ := hwritten
    exact (text_of_writeRaw _ naming).trans (congrArg String.ofList hshown)
  · rw [mem_parameters_written]
    refine List.mem_append_right _ (List.mem_append_left _ (List.mem_flatMap.mpr
      ⟨.text Sample.byDraft, List.mem_singleton_self _, List.mem_flatMap.mpr ⟨_, hbind, ?_⟩⟩))
    exact List.mem_singleton_self _

end FilterQuery
