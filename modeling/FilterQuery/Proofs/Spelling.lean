import Mathlib.Data.List.Forall2
import Mathlib.Tactic.Common
import FilterQuery.Proofs.DottedPaths
import FilterQuery.Proofs.Mappings
import FilterQuery.Proofs.Skipped

/-!
# Spellings

A path is declared with dots or segment by segment, and an operator as itself or by its name.

**One declaration.**  `Definition.fieldFilter_eq` says what a declaration of a field comes to: the names
given in the mapping and after it are put together, and `FieldFilter.Declares` says what the field has of
them.  No operator is there twice, however it is spelled.

**Two spellings.**  `Declaration.Respells` relates declarations that differ in how paths and operators are
spelled.  What they add to a definition is the same field up to spelling (`SameField`), by one step and so
by a run of them, and such definitions ask for the same (`SameDefinition.buildFresh_eq`).  A declaration that
fails is shown as it was spelled, so that faults are the same but for this.
-/

namespace FilterQuery

open FilterQuery.Sql

/-! ## One declaration -/

namespace Definition

/-- The names of operators with their keys in the order given: those of the mapping, then the others. -/
def given (operators : Option Mapping) (named : List (String × Value)) : List (Value × Value) :=
  operators.getD [] ++ named.map fun entry => (.str entry.1, entry.2)

/-- Names under which operators can be given: those of the other arguments are taken. -/
def AreOperators (named : List (String × Value)) : Prop :=
  ∀ entry ∈ named, entry.1 ∉ ["self", "field_path", "operators"]

lemma operatorMapping_eq (operators : Option Mapping) (named : List (String × Value)) :
    operatorMapping (operators.map .mapping) named =
      .ok (Mapping.ofPairs (given operators named)) := by
  rw [Mapping.ofPairs, given, Mapping.merge, List.foldl_append]
  cases operators with
  | none => rfl
  | some entries => cases entries <;> rfl

lemma fieldFilter_eq (path : Value) (operators : Option Mapping) {named : List (String × Value)}
    (hnamed : AreOperators named) :
    fieldFilter path (operators.map .mapping) named =
      ((FieldPath.ofValue path).mapError DeclarationFault.path).map fun segments =>
        ⟨segments, withKeys segments (Mapping.ofPairs (given operators named))⟩ := by
  have hothers : ∀ entry ∈ named, entry.1 ≠ "operators" := fun entry hentry hname =>
    hnamed entry hentry (by simp [hname])
  have htaken : ["self", "field_path"] ++
      (if (operators.map Value.mapping).isSome then ["operators"] else []) ⊆
        ["self", "field_path", "operators"] := by
    cases operators <;> simp
  have hrepeated : repeated? (operators.map .mapping) named = none := by
    rw [repeated?, Option.map_eq_none_iff, List.find?_eq_none]
    exact fun entry hentry hrepeats =>
      hnamed entry hentry (htaken (List.contains_iff_mem.mp hrepeats))
  have hbyName : named.reverse.lookup "operators" = none := by
    rw [List.lookup_eq_none_iff]
    intro entry hentry
    exact bne_iff_ne.mpr (hothers entry (List.mem_reverse.mp hentry)).symm
  have hfilter : (named.filter fun entry => entry.1 != "operators") = named :=
    List.filter_eq_self.mpr fun entry hentry => by simpa using hothers entry hentry
  have hoperators : (operators.map Value.mapping <|> none) = operators.map .mapping := by
    cases operators <;> rfl
  rw [fieldFilter, hrepeated]
  dsimp only
  rw [hbyName, hfilter, hoperators, operatorMapping_eq]
  cases FieldPath.ofValue path <;> rfl

end Definition

/-- A field has the operators that are given under some names. -/
structure FieldFilter.Declares (given : List (Value × Value)) (field : FieldFilter) : Prop where
  /-- No two names mean the same operator. -/
  apart : field.operators.Pairwise fun declared other =>
    ∀ operator, operatorOf? declared.1 = some operator → operatorOf? other.1 ≠ some operator
  /-- The names are those given, each where it is given first. -/
  names : (field.operators.map fun declared => declared.1.text?) =
    (given.map fun pair => pair.1.text?).eraseDups
  /-- The key of a name is what was given last under it, as a text. -/
  keys : ∀ declared ∈ field.operators, ∃ text value, declared.1.text? = some text ∧
    Mapping.IsLast Value.text? given text value ∧ declared.2 = value.display

lemma operatorOf?_of_text? {name : Value} {text : String} (h : name.text? = some text) :
    operatorOf? name = Operator.ofName? text := by
  cases name with
  | op operator =>
      cases h
      exact operator.ofName?_name.symm
  | str _ =>
      cases h
      rfl
  | _ => simp [Value.text?] at h

/-- Names that are not the same key mean different operators. -/
lemma operatorOf?_ne_of_sameKey {name other : Value} {text otherText : String}
    (hname : name.text? = some text) (hother : other.text? = some otherText)
    (hsame : name.sameKey other = false) {operator : Operator}
    (hoperator : operatorOf? name = some operator) : operatorOf? other ≠ some operator := by
  intro hoperator'
  rw [operatorOf?_of_text? hname] at hoperator
  rw [operatorOf?_of_text? hother] at hoperator'
  have htexts : text = otherText :=
    (Operator.name_of_ofName? hoperator).symm.trans (Operator.name_of_ofName? hoperator')
  rw [Value.sameKey_of_text? hother, hname, htexts, beq_self_eq_true] at hsame
  cases hsame

namespace Definition

lemma withKeys_of_ne_nil (segments : FieldPath) {operators : Mapping} (h : operators ≠ []) :
    withKeys segments operators = operators.map fun entry => (entry.1, entry.2.display) := by
  rw [withKeys, List.isEmpty_eq_false_iff.mpr h]
  rfl

lemma declares_withKeys (segments : FieldPath) {pairs : List (Value × Value)}
    (hnamed : Mapping.IsNamed pairs) (hsome : pairs ≠ []) :
    FieldFilter.Declares pairs ⟨segments, withKeys segments (Mapping.ofPairs pairs)⟩ := by
  have htexts : Mapping.IsNamed (Mapping.ofPairs pairs) := by
    intro entry hentry
    have hkey := Mapping.keys_ofPairs_subset pairs (List.mem_map_of_mem hentry)
    obtain ⟨pair, hpair, hsame⟩ := List.mem_map.mp hkey
    rw [← hsame]
    exact hnamed pair hpair
  have hdistinct : Mapping.IsDistinct (Mapping.ofPairs pairs) := Mapping.isDistinct_ofPairs pairs
  have hkeys : withKeys segments (Mapping.ofPairs pairs) =
      (Mapping.ofPairs pairs).map fun entry => (entry.1, entry.2.display) :=
    withKeys_of_ne_nil segments (Mapping.ofPairs_ne_nil hsome)
  refine ⟨?_, ?_, ?_⟩ <;> simp only [hkeys]
  · rw [List.pairwise_map]
    refine (List.pairwise_map.mp hdistinct).imp_of_mem fun hentry hother hsame operator => ?_
    obtain ⟨text, htext⟩ := htexts _ hentry
    obtain ⟨otherText, hotherText⟩ := htexts _ hother
    exact operatorOf?_ne_of_sameKey htext hotherText hsame
  · rw [List.map_map]
    exact Mapping.texts_ofPairs hnamed
  · intro declared hdeclared
    obtain ⟨entry, hentry, rfl⟩ := List.mem_map.mp hdeclared
    obtain ⟨text, htext⟩ := htexts entry hentry
    exact ⟨text, entry.2, htext, (Mapping.find?_ofPairs_iff hnamed).mp
      (Mapping.find?_of_mem hdistinct hentry htext), rfl⟩

end Definition

/-! ## Two spellings -/

/-- How an operator can be spelled. -/
def Operator.spellings (operator : Operator) : List Value :=
  [.op operator, .str operator.name]

/-- Names that are the same or spell the same operator. -/
def SameName (name name' : Value) : Prop :=
  name = name' ∨ ∃ operator : Operator, name ∈ operator.spellings ∧ name' ∈ operator.spellings

/-- How a path can be spelled: by its dotted text or segment by segment. -/
def FieldPath.spellings (text : String) : List Value :=
  [.str text, .list ((ofDotted text).map .str), .tuple ((ofDotted text).map .str)]

/-- Declared paths that are the same or spell the same path. -/
def SamePath (path path' : Value) : Prop :=
  path = path' ∨ ∃ text, path ∈ FieldPath.spellings text ∧ path' ∈ FieldPath.spellings text

/-- Entries whose names are the same up to spelling, with the same content. -/
def SameEntry {α : Type} (entry entry' : Value × α) : Prop :=
  SameName entry.1 entry'.1 ∧ entry.2 = entry'.2

/-- Declarations that are the same up to the spelling of paths and operators.  An operator can be given in
the mapping or, by its name, behind it. -/
inductive Declaration.Respells : Declaration → Declaration → Prop where
  | same (step : Declaration) : Respells step step
  | field {path path' : Value} {operators operators' : Option Mapping}
      {named named' : List (String × Value)} :
      SamePath path path' → Definition.AreOperators named → Definition.AreOperators named' →
      List.Forall₂ SameEntry (Definition.given operators named)
        (Definition.given operators' named') →
      Respells (.field path (operators.map .mapping) named)
        (.field path' (operators'.map .mapping) named')

namespace SameName

variable {name name' known known' key key' : Value}

lemma refl (name : Value) : SameName name name := .inl rfl

lemma text?_of_mem_spellings {operator : Operator} (h : name ∈ operator.spellings) :
    name.text? = some operator.name := by
  rcases List.mem_pair.mp h with rfl | rfl <;> rfl

/-- Spelling makes no difference to which key a name is. -/
lemma sameKey (hknown : SameName known known') (hkey : SameName key key') :
    known.sameKey key = known'.sameKey key' := by
  -- Spelled names are texts, and a text is compared by nothing but its text, on either side.
  have hleft : known.sameKey key = known'.sameKey key := by
    rcases hknown with rfl | ⟨operator, hspelled, hspelled'⟩
    · rfl
    · rw [Value.sameKey_of_text?_left (text?_of_mem_spellings hspelled),
        Value.sameKey_of_text?_left (text?_of_mem_spellings hspelled')]
  have hright : known'.sameKey key = known'.sameKey key' := by
    rcases hkey with rfl | ⟨operator, hspelled, hspelled'⟩
    · rfl
    · rw [Value.sameKey_of_text? (text?_of_mem_spellings hspelled),
        Value.sameKey_of_text? (text?_of_mem_spellings hspelled')]
  exact hleft.trans hright

/-- Nor does it to which operator is meant, and how that is reported. -/
lemma operatorName (h : SameName name name') (path : FieldPath) (value : Value) :
    Present.operatorName ⟨path, name, value⟩ = Present.operatorName ⟨path, name', value⟩ := by
  -- An operator is reported by its name, whichever spelling it was declared under.
  have hspelled {name : Value} {operator : Operator} (hname : name ∈ operator.spellings) :
      Present.operatorName ⟨path, name, value⟩ = operator.name := by
    have hoperator : operatorOf? name = some operator := by
      rw [operatorOf?_of_text? (text?_of_mem_spellings hname), operator.ofName?_name]
    rw [Present.operatorName, hoperator]
  rcases h with rfl | ⟨operator, hname, hname'⟩
  · rfl
  · rw [hspelled hname, hspelled hname']

end SameName

/-! ### Mappings up to spelling -/

namespace Mapping

variable {entries entries' pairs pairs' : Mapping}

lemma forall₂_insert {key key' : Value} (h : List.Forall₂ SameEntry entries entries')
    (hkey : SameName key key') (value : Value) :
    List.Forall₂ SameEntry (insert entries key value) (insert entries' key' value) := by
  induction h with
  | nil => exact .cons ⟨hkey, rfl⟩ .nil
  | cons hentry hrest ih =>
      rw [insert, insert, hentry.1.sameKey hkey]
      split_ifs
      · exact .cons ⟨hentry.1, rfl⟩ hrest
      · exact .cons hentry ih

/-- What is put together from the same pairs is the same, entry by entry. -/
lemma forall₂_ofPairs (h : List.Forall₂ SameEntry pairs pairs') :
    List.Forall₂ SameEntry (ofPairs pairs) (ofPairs pairs') := by
  refine List.rel_foldl (P := List.Forall₂ SameEntry) ?_ .nil h
  rintro entries entries' hentries ⟨key, value⟩ ⟨key', _⟩ ⟨hkey, rfl⟩
  exact forall₂_insert hentries hkey value

end Mapping

/-! ### Definitions up to spelling -/

/-- Fields that are the same up to the spelling of their operators. -/
structure SameField (field field' : FieldFilter) : Prop where
  path : field.path = field'.path
  operators : List.Forall₂ SameEntry field.operators field'.operators

/-- Definitions that are the same up to the spelling of their operators. -/
structure SameDefinition (definition definition' : Definition) : Prop where
  fields : List.Forall₂ SameField definition.fields definition'.fields
  ordering : definition.ordering = definition'.ordering

/-- Faults that are the same up to how a path is shown. -/
def SameFault (fault fault' : DeclarationFault) : Prop :=
  fault = fault' ∨ ∃ shown shown',
    fault = .path (.emptySegment shown) ∧ fault' = .path (.emptySegment shown')

/-- Two declarations come to the same: both to something, or both to a fault. -/
inductive SameOutcome {α : Type} (same : α → α → Prop) :
    Except DeclarationFault α → Except DeclarationFault α → Prop where
  | ok {a a' : α} : same a a' → SameOutcome same (.ok a) (.ok a')
  | error {fault fault' : DeclarationFault} :
      SameFault fault fault' → SameOutcome same (.error fault) (.error fault')

lemma SameName.forall₂_refl {α : Type} (entries : List (Value × α)) :
    List.Forall₂ SameEntry entries entries :=
  List.forall₂_same.mpr fun entry _ => ⟨.refl entry.1, rfl⟩

lemma SameField.refl (field : FieldFilter) : SameField field field :=
  ⟨rfl, SameName.forall₂_refl _⟩

lemma SameDefinition.refl (definition : Definition) : SameDefinition definition definition :=
  ⟨List.forall₂_same.mpr fun field _ => .refl field, rfl⟩

lemma SameOutcome.refl {α : Type} {same : α → α → Prop} (hsame : ∀ a, same a a)
    (outcome : Except DeclarationFault α) : SameOutcome same outcome outcome := by
  cases outcome with
  | ok a => exact .ok (hsame a)
  | error fault => exact .error (.inl rfl)

lemma SameOutcome.of_ok {α : Type} {same : α → α → Prop} {a : α}
    {outcome : Except DeclarationFault α} (h : SameOutcome same (.ok a) outcome) :
    ∃ a', outcome = .ok a' ∧ same a a' := by
  cases h with
  | ok ha => exact ⟨_, rfl, ha⟩

lemma SameOutcome.of_error {α : Type} {same : α → α → Prop} {fault : DeclarationFault}
    {outcome : Except DeclarationFault α} (h : SameOutcome same (.error fault) outcome) :
    ∃ fault', outcome = .error fault' ∧ SameFault fault fault' := by
  cases h with
  | error hfault => exact ⟨_, rfl, hfault⟩

lemma SameOutcome.bind {α β : Type} {same : α → α → Prop} {same' : β → β → Prop}
    {outcome outcome' : Except DeclarationFault α} {f g : α → Except DeclarationFault β}
    (h : SameOutcome same outcome outcome')
    (hnext : ∀ a a', same a a' → SameOutcome same' (f a) (g a')) :
    SameOutcome same' (outcome >>= f) (outcome' >>= g) := by
  cases h with
  | ok ha => exact hnext _ _ ha
  | error hfault => exact .error hfault

lemma SameOutcome.map {α β : Type} {same : α → α → Prop} {same' : β → β → Prop}
    {outcome outcome' : Except DeclarationFault α} {f g : α → β}
    (h : SameOutcome same outcome outcome') (hnext : ∀ a a', same a a' → same' (f a) (g a')) :
    SameOutcome same' (outcome.map f) (outcome'.map g) := by
  cases h with
  | ok ha => exact .ok (hnext _ _ ha)
  | error hfault => exact .error hfault

/-- Spelling makes no difference to a path, but to how it is shown when it is none. -/
lemma SamePath.sameOutcome {path path' : Value} (h : SamePath path path') :
    SameOutcome Eq ((FieldPath.ofValue path).mapError DeclarationFault.path)
      ((FieldPath.ofValue path').mapError DeclarationFault.path) := by
  rcases h with rfl | ⟨text, hspelled, hspelled'⟩
  · exact .refl (fun _ => rfl) _
  · have hsegments {path : Value} (hpath : path ∈ FieldPath.spellings text) :
        FieldPath.segments? path = some (FieldPath.ofDotted text) := by
      obtain ⟨htuple, hlist⟩ := FieldPath.segments?_of_path (FieldPath.ofDotted text)
      rcases List.mem_cons.mp hpath with rfl | hpath
      · rfl
      · rcases List.mem_pair.mp hpath with rfl | rfl
        · exact hlist
        · exact htuple
    rw [FieldPath.ofValue_of_segments (hsegments hspelled),
      FieldPath.ofValue_of_segments (hsegments hspelled')]
    split_ifs
    · exact .error (.inr ⟨_, _, rfl, rfl⟩)
    · exact .ok rfl

namespace Definition

lemma forall₂_withKeys (segments : FieldPath) {entries entries' : Mapping}
    (h : List.Forall₂ SameEntry entries entries') :
    List.Forall₂ SameEntry (withKeys segments entries) (withKeys segments entries') := by
  cases h with
  | nil => exact SameName.forall₂_refl _
  | cons hentry hrest =>
      rw [withKeys_of_ne_nil segments (List.cons_ne_nil _ _),
        withKeys_of_ne_nil segments (List.cons_ne_nil _ _), List.forall₂_map_left_iff,
        List.forall₂_map_right_iff]
      refine (List.Forall₂.cons hentry hrest).imp fun entry entry' hsame => ?_
      exact ⟨hsame.1, congrArg Value.display hsame.2⟩

/-- What two spellings of a declaration come to. -/
lemma sameOutcome_fieldFilter {path path' : Value} {operators operators' : Option Mapping}
    {named named' : List (String × Value)} (hpath : SamePath path path')
    (hnamed : AreOperators named) (hnamed' : AreOperators named')
    (hgiven : List.Forall₂ SameEntry (given operators named) (given operators' named')) :
    SameOutcome SameField (fieldFilter path (operators.map .mapping) named)
      (fieldFilter path' (operators'.map .mapping) named') := by
  rw [fieldFilter_eq _ _ hnamed, fieldFilter_eq _ _ hnamed']
  refine hpath.sameOutcome.map fun segments segments' hsegments => ?_
  subst hsegments
  exact ⟨rfl, forall₂_withKeys segments (Mapping.forall₂_ofPairs hgiven)⟩

/-- **One step**: what it makes of two definitions that are the same up to spelling is the same again,
however it is spelled. -/
lemma sameOutcome_declare {definition definition' : Definition} {step step' : Declaration}
    (h : SameDefinition definition definition') (hstep : step.Respells step') :
    SameOutcome SameDefinition (declare definition step) (declare definition' step') := by
  have hadd {field field' : FieldFilter} (hfield : SameField field field') :
      SameDefinition { definition with fields := definition.fields ++ [field] }
        { definition' with fields := definition'.fields ++ [field'] } :=
    ⟨List.rel_append h.fields (.cons hfield .nil), h.ordering⟩
  cases hstep with
  | same =>
      cases step with
      | field path operators named =>
          exact (SameOutcome.refl SameField.refl _).bind fun _ _ hfield => .ok (hadd hfield)
      | order clauses => exact .ok ⟨h.fields, rfl⟩
  | field hpath hnamed hnamed' hgiven =>
      exact (sameOutcome_fieldFilter hpath hnamed hnamed' hgiven).bind fun _ _ hfield =>
        .ok (hadd hfield)

/-- **A run of steps**, by induction on them. -/
lemma sameOutcome_extend {definition definition' : Definition} {steps steps' : List Declaration}
    (h : SameDefinition definition definition')
    (hsteps : List.Forall₂ Declaration.Respells steps steps') :
    SameOutcome SameDefinition (extend definition steps) (extend definition' steps') := by
  induction hsteps generalizing definition definition' with
  | nil => exact .ok h
  | cons hstep hrest ih =>
      rw [extend, extend, List.foldlM_cons, List.foldlM_cons]
      exact (sameOutcome_declare h hstep).bind fun _ _ hnext => ih hnext

end Definition

/-! ### What is asked -/

/-- Present operators that are the same up to spelling ask for the same. -/
lemma asked_of_sameEntry {filters : Mapping} {field field' : FieldFilter}
    {declared declared' : Value × String} (hpath : field.path = field'.path)
    (h : SameEntry declared declared') :
    (field.present? filters declared).map Present.asked =
      (field'.present? filters declared').map Present.asked := by
  obtain ⟨name, key⟩ := declared
  obtain ⟨name', _⟩ := declared'
  obtain ⟨hname, rfl⟩ := h
  rw [FieldFilter.present?, FieldFilter.present?, Option.map_map, Option.map_map, hpath]
  refine Option.map_congr fun value _ => ?_
  simp only [Function.comp_apply, Present.asked, hname.operatorName]

lemma asked_of_operators {filters : Mapping} {field field' : FieldFilter}
    {operators operators' : List (Value × String)} (hpath : field.path = field'.path)
    (h : List.Forall₂ SameEntry operators operators') :
    (operators.filterMap (field.present? filters)).map Present.asked =
      (operators'.filterMap (field'.present? filters)).map Present.asked := by
  rw [List.map_filterMap, List.map_filterMap]
  induction h with
  | nil => rfl
  | cons hentry _ ih =>
      rw [List.filterMap_cons, List.filterMap_cons, asked_of_sameEntry hpath hentry, ih]

lemma asked_of_fields {filters : Mapping} {fields fields' : List FieldFilter}
    (h : List.Forall₂ SameField fields fields') :
    (present filters fields).map Present.asked = (present filters fields').map Present.asked := by
  induction h with
  | nil => rfl
  | cons hfield _ ih =>
      rw [present, present, List.flatMap_cons, List.flatMap_cons, List.map_append, List.map_append,
        asked_of_operators hfield.path hfield.operators]
      exact congrArg _ ih

/-- Definitions that are the same up to spelling have the same outcome, whatever they are built on. -/
lemma SameDefinition.buildFresh_eq {definition definition' : Definition}
    (h : SameDefinition definition definition') (schema : Schema) (filters : Mapping)
    (ignoreCase : Bool) (base : Statement) :
    (buildFresh ⟨schema, .mapping filters, ignoreCase⟩ definition' base).1 =
      (buildFresh ⟨schema, .mapping filters, ignoreCase⟩ definition base).1 :=
  (alike_build base (asked_of_fields h.fields).symm h.ordering.symm .start .start rfl).1

lemma SameDefinition.query_eq {definition definition' : Definition}
    (h : SameDefinition definition definition') (schema : Schema) (settings : Settings)
    (base : Statement) (options : Value) :
    (query schema settings base options (.definition definition')).1 =
      (query schema settings base options (.definition definition)).1 := by
  cases hfilters : Options.filters settings options with
  | error fault => simp only [query, Configure.build, hfilters]
  | ok filters => simp only [query, Configure.build, hfilters, h.buildFresh_eq]

namespace Definition

/-- **Declarations and their spelling.**  A declaration of a field with a path adds one field, with this
path.  It has the operators that are given, none of them twice: under each name the last key given, in the
place of the first; or, if none is given, its presence under its own name.

Of steps that spell paths and operators otherwise there come definitions that have the same outcome on
every base, or faults that are the same but for how a path is shown. -/
theorem spelling_law :
    (∀ (definition : Definition) (path : Value) (segments : FieldPath)
        (operators : Option Mapping) (named : List (String × Value)),
      FieldPath.ofValue path = .ok segments → AreOperators named →
      Mapping.IsNamed (given operators named) →
      ∃ field : FieldFilter,
        declare definition (.field path (operators.map .mapping) named) =
          .ok { definition with fields := definition.fields ++ [field] } ∧
        field.path = segments ∧
        (given operators named = [] →
          field.operators = [(.op .present, segments.getLast?.getD "")]) ∧
        (given operators named ≠ [] → field.Declares (given operators named))) ∧
    (∀ steps steps' : List Declaration, List.Forall₂ Declaration.Respells steps steps' →
      (∀ fault, ofSteps steps = .error fault →
        ∃ fault', ofSteps steps' = .error fault' ∧ SameFault fault fault') ∧
      (∀ definition, ofSteps steps = .ok definition →
        ∃ definition', ofSteps steps' = .ok definition' ∧
          (∀ schema filters ignoreCase base,
            (buildFresh ⟨schema, .mapping filters, ignoreCase⟩ definition' base).1 =
              (buildFresh ⟨schema, .mapping filters, ignoreCase⟩ definition base).1) ∧
          ∀ schema settings base options,
            (query schema settings base options (.steps steps')).1 =
              (query schema settings base options (.steps steps)).1)) := by
  refine ⟨fun definition path segments operators named hpath hnamed hgiven => ?_,
    fun steps steps' hsteps => ?_⟩
  · refine ⟨⟨segments, withKeys segments (Mapping.ofPairs (given operators named))⟩, ?_, rfl,
      fun hnone => ?_, declares_withKeys segments hgiven⟩
    · rw [declare, fieldFilter_eq path operators hnamed, hpath]
      rfl
    · rw [hnone]
      rfl
  · have houtcome : SameOutcome SameDefinition (ofSteps steps) (ofSteps steps') :=
      sameOutcome_extend (.refl .empty) hsteps
    refine ⟨fun fault hfault => ?_, fun definition hdefinition => ?_⟩
    · exact (hfault ▸ houtcome).of_error
    · obtain ⟨definition', hdefinition', hsame⟩ := (hdefinition ▸ houtcome).of_ok
      refine ⟨definition', hdefinition', fun schema filters ignoreCase base =>
        hsame.buildFresh_eq schema filters ignoreCase base, fun schema settings base options => ?_⟩
      rw [query_steps hdefinition', query_steps hdefinition, hsame.query_eq]

/-- The entries of a mapping on the names of authors, with its operators in some spelling. -/
def authorOperators (contains present : Value) : Mapping :=
  [(contains, .str "part"), (present, .str "known")]

/-- Where the mapping and a name give `contains`, it is there once, with the key given last; and its
spelling does not matter to any build, nor does that of the path. -/
theorem spelling_law_comments :
    (∃ field : FieldFilter,
      declare empty (.field (.str "comments.author.name")
        (some (.mapping (authorOperators (.op .contains) (.str "present"))))
        [("contains", .str "name")]) = .ok ⟨[field], []⟩ ∧
      field.Declares [(.op .contains, .str "part"), (.str "present", .str "known"),
        (.str "contains", .str "name")]) ∧
    ∃ definition, ofSteps [.field (.list [.str "comments", .str "author", .str "name"])
        (some (.mapping (authorOperators (.str "contains") (.op .present))))
        [("contains", .str "name")]] = .ok definition ∧
      ∀ schema filters ignoreCase base,
        (buildFresh ⟨schema, .mapping filters, ignoreCase⟩ definition base).1 =
          (buildFresh ⟨schema, .mapping filters, ignoreCase⟩ ⟨[⟨["comments", "author", "name"],
            [(.op .contains, "name"), (.str "present", "known")]⟩], []⟩ base).1 := by
  obtain ⟨hdeclared, hrespelled⟩ := spelling_law
  have hnamed : AreOperators [("contains", .str "name")] := by
    intro entry hentry
    rw [List.mem_singleton.mp hentry]
    decide
  refine ⟨?_, ?_⟩
  · obtain ⟨field, hfield, -, -, hdeclares⟩ := hdeclared empty (.str "comments.author.name")
      ["comments", "author", "name"] (some (authorOperators (.op .contains) (.str "present")))
      [("contains", .str "name")] rfl hnamed (by
        intro pair hpair
        rcases List.mem_cons.mp hpair with rfl | hpair
        · exact ⟨_, rfl⟩
        · rcases List.mem_pair.mp hpair with rfl | rfl <;> exact ⟨_, rfl⟩)
    exact ⟨field, hfield, hdeclares nofun⟩
  · have hpath : SamePath (.str "comments.author.name")
        (.list [.str "comments", .str "author", .str "name"]) :=
      .inr ⟨"comments.author.name", List.mem_cons_self, .tail _ List.mem_cons_self⟩
    have hcontains : SameName (.op .contains) (.str "contains") :=
      .inr ⟨.contains, List.mem_cons_self, .tail _ List.mem_cons_self⟩
    have hpresent : SameName (.str "present") (.op .present) :=
      .inr ⟨.present, .tail _ List.mem_cons_self, List.mem_cons_self⟩
    obtain ⟨-, hdefined⟩ := hrespelled _ _ (.cons (@Declaration.Respells.field _ _
      (some (authorOperators (.op .contains) (.str "present")))
      (some (authorOperators (.str "contains") (.op .present))) _ _ hpath hnamed hnamed
      (.cons ⟨hcontains, rfl⟩ (.cons ⟨hpresent, rfl⟩ (SameName.forall₂_refl _)))) .nil)
    obtain ⟨definition, hdefinition, hbuilds, -⟩ := hdefined _ rfl
    exact ⟨definition, hdefinition, hbuilds⟩

end Definition

end FilterQuery
