import Mathlib.Data.List.Infix
import Mathlib.Tactic.Common
import FilterQuery.Yaml.Token

/-!
# Where reading breaks off

Reading a document into tokens breaks off over a character that belongs to no token.  It can also come
upon a number that is too large to be read: the number of a character in an escape, or the number of a
version in a directive.  This file says where in the text such a number stands, and that there is no
other reason to break off.

**Faults that stand in a text.**  `StandsIn` names the two, as they are written.  `Fault.OfStage` is the
form that the faults of a stage have: its own one, or scalar faults.

**Steps of reading.**  `StaysAt` is what holds of every step at every position: it leaves an ending of
what was there, and if it comes upon a scalar fault then that stands in what was there.  It goes through
sequences of steps (`StaysAt.bind`), so each reader gets it from its parts, and a reader with a bound on
its steps by induction on the bound.  Only an escape and a directive need more than their parts, for
there the characters before count as well.

**Tokens.**  `Layout.Goes` carries this over to layouts, and `Tokens.fault_ofChars` to all tokens of a
document.
-/

namespace FilterQuery.Yaml

/-! ## Faults that stand in a text -/

/-- A scalar fault stands in a text: an escape of a character beyond the last one, or a directive whose
version has a number of more digits than are read. -/
inductive StandsIn (chars : List Char) : ScalarFault → Prop where
  | escape {before digits after : List Char} {letter : Char} {code : Nat}
    (place : chars = before ++ '\\' :: letter :: (digits ++ after))
    (width : escapeWidth? letter = some digits.length) (number : hexNumber? digits = some code)
    (beyond : 0x10ffff < code) : StandsIn chars (.noCharacter code)
  | version {before digits line : List Char}
    (place : chars = before ++ '%' :: ("YAML".toList ++ line)) (within : digits <:+: line)
    (number : digits.all Char.isDigit) (long : Text.digitLimit < digits.length) :
    StandsIn chars (.tooManyDigits digits.length)

/-- A stage of reading a document has a fault of its own, and may come upon scalar faults. -/
inductive Fault.OfStage (own : Fault) (scalars : ScalarFault → Prop) : Fault → Prop where
  | own : OfStage own scalars own
  | scalar {fault : ScalarFault} (h : scalars fault) : OfStage own scalars (.scalar fault)

lemma Fault.OfStage.mono {own fault : Fault} {scalars more : ScalarFault → Prop}
    (h : OfStage own scalars fault) (hmore : ∀ scalar, scalars scalar → more scalar) :
    OfStage own more fault := by
  cases h with
  | own => exact .own
  | scalar hscalar => exact .scalar (hmore _ hscalar)

/-! ## Steps of reading -/

/-- From a position, a step leaves an ending of the text, or it fails: over a character that belongs to
no token, or over one of these scalar faults. -/
structure StaysAt {α : Type} (text : List Char) (faults : ScalarFault → Prop) (cursor : Cursor)
    (reader : Reader α) : Prop where
  rest : ∀ a after, reader.run cursor = .ok (a, after) → after.rest <:+ text
  fault : ∀ fault, reader.run cursor = .error fault → Fault.OfStage .token faults fault

/-- A step does so from every position in the text. -/
def Stays {α : Type} (text : List Char) (faults : ScalarFault → Prop) (reader : Reader α) : Prop :=
  ∀ cursor : Cursor, cursor.rest <:+ text → StaysAt text faults cursor reader

section Steps

variable {α β : Type} {text more : List Char} {faults : ScalarFault → Prop} {cursor : Cursor}
  {reader : Reader α} {next : α → Reader β}

/-- One step after the other, where the second one may know what the first one has read. -/
lemma StaysAt.bind (h : StaysAt text faults cursor reader)
    (hnext : ∀ a after, reader.run cursor = .ok (a, after) → after.rest <:+ text →
      StaysAt text faults after (next a)) :
    StaysAt text faults cursor (reader >>= next) := by
  have hrun : (reader >>= next).run cursor =
      (reader.run cursor).bind fun found => (next found.1).run found.2 := rfl
  cases hread : reader.run cursor with
  | error fault =>
      rw [hread] at hrun
      refine ⟨fun a after hok => ?_, fun found herror => h.fault found ?_⟩
      · cases hrun.symm.trans hok
      · cases hrun.symm.trans herror
        exact hread
  | ok found =>
      obtain ⟨a, after⟩ := found
      rw [hread] at hrun
      have hthen := hnext a after hread (h.rest a after hread)
      exact ⟨fun b last hok => hthen.rest b last (hrun.symm.trans hok),
        fun fault herror => hthen.fault fault (hrun.symm.trans herror)⟩

/-- What stays within a text stays within a longer one. -/
lemma StaysAt.mono (h : StaysAt text faults cursor reader) (hmore : text <:+ more) :
    StaysAt more faults cursor reader :=
  ⟨fun a after hrun => (h.rest a after hrun).trans hmore, h.fault⟩

lemma Stays.bind (h : Stays text faults reader) (hnext : ∀ a, Stays text faults (next a)) :
    Stays text faults (reader >>= next) :=
  fun cursor hcursor => (h cursor hcursor).bind fun a after _ hafter => hnext a after hafter

lemma Stays.pure (a : α) : Stays text faults (Pure.pure a : Reader α) := by
  intro cursor hcursor
  refine ⟨fun b after h => ?_, fun fault h => ?_⟩
  · cases h
    exact hcursor
  · cases h

lemma Stays.token : Stays text faults (throw .token : Reader α) := by
  intro cursor _
  refine ⟨fun b after h => ?_, fun fault h => ?_⟩
  · cases h
  · cases h
    exact .own

lemma Stays.map (h : Stays text faults reader) (f : α → β) :
    Stays text faults (do return f (← reader)) :=
  h.bind fun a => .pure (f a)

lemma Stays.ite {condition : Prop} [Decidable condition] {other : Reader α}
    (h : Stays text faults reader) (hother : Stays text faults other) :
    Stays text faults (if condition then reader else other) := by
  split
  · exact h
  · exact hother

/-- A check before the rest of a reader. -/
lemma StaysAt.check {condition : Prop} [Decidable condition]
    (h : StaysAt text faults cursor reader) (hcursor : cursor.rest <:+ text) :
    StaysAt text faults cursor
      (if condition then (do let _ ← (throw .token : Reader PUnit); reader) else reader) := by
  split
  · exact (Stays.token cursor hcursor).bind fun _ after h => by cases h
  · exact h

lemma Stays.check {condition : Prop} [Decidable condition] (h : Stays text faults reader) :
    Stays text faults
      (if condition then (do let _ ← (throw .token : Reader PUnit); reader) else reader) :=
  fun cursor hcursor => (h cursor hcursor).check hcursor

end Steps

/-- Passing over a character leaves the others. -/
lemma Cursor.rest_next (cursor : Cursor) : cursor.next.rest = cursor.rest.tail := by
  rw [next]
  split
  · rename_i hrest
    rw [hrest]
    rfl
  · rename_i hrest
    rw [hrest]
    split
    · rfl
    · split <;> rfl

lemma Cursor.rest_skip (cursor : Cursor) (count : Nat) :
    (cursor.skip count).rest = cursor.rest.drop count := by
  induction count generalizing cursor with
  | zero => rfl
  | succ count ih => rw [skip, ih, rest_next, List.drop_tail]

/-- The character that is here is the first one that is left. -/
lemma Cursor.rest_eq_cons {cursor : Cursor} {c : Char} (h : cursor.peek? 0 = some c) :
    cursor.rest = c :: cursor.rest.tail := by
  rw [peek?, ← List.head?_eq_getElem?] at h
  exact (List.cons_head?_tail h).symm

namespace Stays

variable {text : List Char} {faults : ScalarFault → Prop}

lemma get : Stays text faults (MonadState.get : Reader Cursor) := by
  intro cursor hcursor
  refine ⟨fun found after h => ?_, fun fault h => ?_⟩
  · cases h
    exact hcursor
  · cases h

lemma peek? (distance : Nat) : Stays text faults (Reader.peek? distance) :=
  get.map _

lemma skip (count : Nat) : Stays text faults (Reader.skip count) := by
  intro cursor hcursor
  refine ⟨fun found after h => ?_, fun fault h => ?_⟩
  · cases h
    rw [Cursor.rest_skip]
    exact (List.drop_suffix _ _).trans hcursor
  · cases h

lemma take (count : Nat) : Stays text faults (Reader.take count) := by
  intro cursor hcursor
  refine ⟨fun found after h => ?_, fun fault h => ?_⟩
  · cases h
    rw [Cursor.rest_skip]
    exact (List.drop_suffix _ _).trans hcursor
  · cases h

lemma takeWhile (accepts : Char → Bool) : Stays text faults (Reader.takeWhile accepts) :=
  get.bind fun _ => take _

lemma skipWhile (accepts : Char → Bool) : Stays text faults (Reader.skipWhile accepts) :=
  (takeWhile accepts).bind fun _ => .pure _

lemma steps : Stays text faults Reader.steps :=
  get.map _

lemma lineBreak : Stays text faults Reader.lineBreak := by
  refine (peek? 0).bind fun c => ?_
  split
  · exact .ite ((skip 1).bind fun _ => .pure _) (.pure _)
  · exact .pure _

lemma closeLine : Stays text faults Reader.closeLine := by
  have hcomment : Stays text faults Reader.skipComment :=
    (peek? 0).bind fun c => .ite (skipWhile _) (.pure _)
  refine (skipWhile _).bind fun _ => hcomment.bind fun _ => (peek? 0).bind fun c => .ite ?_ .token
  exact lineBreak.bind fun _ => .pure _

end Stays

/-! ## Texts of scalars -/

section Scalars

variable {text : List Char} {faults : ScalarFault → Prop}

lemma quotedBreaks_stays (steps : Nat) : Stays text faults (quotedBreaks steps) := by
  induction steps with
  | zero => exact .pure _
  | succ steps ih =>
      rw [quotedBreaks]
      refine Stays.get.bind fun _ => .check ?_
      refine (Stays.skipWhile _).bind fun _ => Stays.lineBreak.bind fun first => ?_
      split
      · exact .pure _
      · exact ih.map _

/-- The digits behind the letter of an escape. -/
lemma escapedCode_staysAt {cursor : Cursor} {letter : Char} {width : Nat}
    (hwidth : escapeWidth? letter = some width)
    (hcursor : '\\' :: letter :: cursor.rest <:+ text) :
    StaysAt text (StandsIn text) cursor (escapedCode width) := by
  have hrest : cursor.rest <:+ text := (List.suffix_append ['\\', letter] _).trans hcursor
  refine (Stays.take width cursor hrest).bind fun digits after hrun hafter => ?_
  split
  · rename_i code hcode
    by_cases hlength : digits.length ≠ width
    · rw [if_pos hlength]
      exact Stays.token after hafter
    · rw [if_neg hlength]
      by_cases hbeyond : 0x10ffff < code
      · rw [if_pos hbeyond]
        refine ⟨fun c last h => ?_, fun fault h => ?_⟩
        · cases h
        · cases h
          obtain ⟨before, hbefore⟩ := hcursor
          have hdigits : digits = cursor.rest.take width := by
            cases hrun
            rfl
          have hplace : text = before ++ '\\' :: letter :: (digits ++ cursor.rest.drop width) := by
            rw [← hbefore, hdigits, List.take_append_drop]
          rw [← not_not.mp hlength] at hwidth
          exact .scalar (.escape hplace hwidth hcode hbeyond)
      · rw [if_neg hbeyond]
        exact Stays.pure _ after hafter
  · exact Stays.token after hafter

/-- What is behind a backslash. -/
lemma escaped_staysAt {cursor : Cursor} (hcursor : '\\' :: cursor.rest <:+ text) :
    StaysAt text (StandsIn text) cursor escaped := by
  have hrest : cursor.rest <:+ text := (List.suffix_cons _ _).trans hcursor
  refine (Stays.peek? 0 cursor hrest).bind fun found after hrun hafter => ?_
  cases hrun
  split
  · exact Stays.token cursor hrest
  · rename_i letter hletter
    have hhead := Cursor.rest_eq_cons hletter
    split
    · exact (Stays.skip 1).bind (fun _ => .pure _) cursor hrest
    · rename_i width _ hwidth
      refine (Stays.skip 1 cursor hrest).bind fun _ after hskip _ => ?_
      cases hskip
      refine (escapedCode_staysAt hwidth ?_).bind fun c last _ hlast => Stays.pure _ last hlast
      rwa [Cursor.rest_skip, List.drop_one, ← hhead]
    · refine Stays.ite (Stays.lineBreak.bind fun _ => ?_) .token cursor hrest
      exact Stays.steps.bind fun _ => quotedBreaks_stays _

lemma quotedWord_stays (isDouble : Bool) (steps : Nat) :
    Stays text (StandsIn text) (quotedWord isDouble steps) := by
  induction steps with
  | zero => exact .pure _
  | succ steps ih =>
      rw [quotedWord]
      refine (Stays.takeWhile _).bind fun run => ?_
      intro cursor hcursor
      refine (Stays.peek? 0 cursor hcursor).bind fun found after hrun _ => ?_
      refine (Stays.peek? 1 after ?_).bind fun second last hrun' _ => ?_
      · cases hrun
        exact hcursor
      cases hrun
      cases hrun'
      have hplain : ∀ (count : Nat) (c : Char), StaysAt text (StandsIn text) cursor
          (do Reader.skip count; return run ++ c :: (← quotedWord isDouble steps)) := fun count c =>
        (Stays.skip count).bind (fun _ => ih.map _) cursor hcursor
      split
      · exact hplain 2 _
      · exact hplain 1 _
      · exact hplain 1 _
      · exact hplain 1 _
      · rename_i hbackslash
        -- only here an escape is read, and the backslash before it is still in sight
        have hrest := Cursor.rest_eq_cons hbackslash
        refine (Stays.skip 1 cursor hcursor).bind fun _ behind hskip _ => ?_
        cases hskip
        refine (escaped_staysAt ?_).bind fun plain last _ hlast => ih.map _ last hlast
        rwa [Cursor.rest_skip, List.drop_one, ← hrest]
      · exact Stays.pure _ cursor hcursor

lemma quotedGap_stays : Stays text faults quotedGap := by
  refine (Stays.takeWhile _).bind fun blanks => (Stays.peek? 0).bind fun c => ?_
  split
  · exact .token
  · refine .ite ?_ (.pure _)
    exact Stays.lineBreak.bind fun first => Stays.steps.bind fun steps =>
      (quotedBreaks_stays steps).map _

lemma quotedRest_stays (quote : Char) (steps : Nat) :
    Stays text (StandsIn text) (quotedRest quote steps) := by
  induction steps with
  | zero => exact .token
  | succ steps ih =>
      rw [quotedRest]
      refine (Stays.peek? 0).bind fun c => .ite ((Stays.skip 1).bind fun _ => .pure _) ?_
      exact quotedGap_stays.bind fun gap => Stays.steps.bind fun count =>
        (quotedWord_stays _ count).bind fun word => ih.map _

lemma quotedScalar_stays (quote : Char) : Stays text (StandsIn text) (quotedScalar quote) :=
  (Stays.skip 1).bind fun _ => Stays.steps.bind fun count =>
    (quotedWord_stays _ count).bind fun _ => Stays.steps.bind fun steps =>
      (quotedRest_stays quote steps).map _

lemma plainBreaks_stays (steps : Nat) : Stays text faults (plainBreaks steps) := by
  induction steps with
  | zero => exact .pure _
  | succ steps ih =>
      rw [plainBreaks]
      refine (Stays.skipWhile _).bind fun _ => Stays.lineBreak.bind fun first => ?_
      split
      · exact .pure _
      · exact Stays.get.bind fun _ => .ite (.pure _) (ih.map _)

lemma plainGap_stays : Stays text faults plainGap := by
  refine (Stays.takeWhile _).bind fun spaces => Stays.lineBreak.bind fun first => ?_
  split
  · exact .pure _
  · refine Stays.get.bind fun _ => .ite (.pure _) ?_
    refine Stays.steps.bind fun steps => (plainBreaks_stays steps).bind fun later => ?_
    split <;> exact .pure _

lemma plainWords_stays (inFlow : Bool) (indent : Int) (gap : List Char) (lineEnded : Bool)
    (steps : Nat) : Stays text faults (plainWords inFlow indent gap lineEnded steps) := by
  induction steps generalizing gap lineEnded with
  | zero => exact .pure _
  | succ steps ih =>
      rw [plainWords]
      refine Stays.get.bind fun cursor => .ite (.pure _) ?_
      refine (Stays.skip _).bind fun _ => plainGap_stays.bind fun found => ?_
      refine Stays.get.bind fun cursor => .ite (.pure _) ?_
      exact (ih found.1 found.2).bind fun more => .pure _

lemma plainScalar_stays (inFlow : Bool) (indent : Int) :
    Stays text faults (plainScalar inFlow indent) :=
  Stays.steps.bind fun steps => plainWords_stays inFlow indent [] false steps

lemma blockSigns_stays : Stays text faults blockSigns := by
  have hsign : Stays text faults chompingSign? := by
    refine (Stays.peek? 0).bind fun c => ?_
    split
    · exact (Stays.skip 1).bind fun _ => .pure _
    · exact (Stays.skip 1).bind fun _ => .pure _
    · exact .pure _
  have hdigit : Stays text faults indentDigit? := by
    refine (Stays.peek? 0).bind fun c => ?_
    split
    · refine .ite (.check ?_) (.pure _)
      exact (Stays.skip 1).bind fun _ => .pure _
    · exact .pure _
  refine hsign.bind fun sign => hdigit.bind fun digit => ?_
  have hend : ∀ late : Option Chomping, Stays text faults (do
      if endsText (← Reader.peek? 0) then return ((sign <|> late).getD .clip, digit)
      else throw .token) := fun late => (Stays.peek? 0).bind fun c => .ite (.pure _) .token
  exact .ite (hsign.bind hend) ((Stays.pure none).bind hend)

lemma blockLead_stays (reach steps : Nat) : Stays text faults (blockLead reach steps) := by
  induction steps generalizing reach with
  | zero => exact .pure _
  | succ steps ih =>
      rw [blockLead]
      refine (Stays.skipWhile _).bind fun _ => Stays.get.bind fun cursor =>
        Stays.lineBreak.bind fun first => ?_
      split
      · exact .pure _
      · exact (ih _).bind fun found => .pure _

lemma blockBreaks_stays (indent steps : Nat) : Stays text faults (blockBreaks indent steps) := by
  have hindent : Stays text faults (skipIndent indent) := Stays.get.bind fun _ => .skip _
  induction steps with
  | zero => exact .pure _
  | succ steps ih =>
      rw [blockBreaks]
      refine hindent.bind fun _ => Stays.lineBreak.bind fun first => ?_
      split
      · exact .pure _
      · exact ih.map _

lemma atBlockLine_stays (indent : Nat) : Stays text faults (atBlockLine indent) :=
  Stays.get.map _

lemma blockLines_stays (isFolded : Bool) (indent : Nat) (breaks : List Char) (steps : Nat) :
    Stays text faults (blockLines isFolded indent breaks steps) := by
  induction steps generalizing breaks with
  | zero => exact .pure _
  | succ steps ih =>
      rw [blockLines]
      refine (Stays.peek? 0).bind fun c => (Stays.takeWhile _).bind fun line =>
        Stays.lineBreak.bind fun lineEnd => Stays.steps.bind fun count =>
          (blockBreaks_stays indent count).bind fun later =>
            (atBlockLine_stays indent).bind fun continues => .ite ?_ (.pure _)
      exact (Stays.peek? 0).bind fun d => (ih later).bind fun found => .pure _

lemma blockScalar_stays (isFolded : Bool) (outer : Int) :
    Stays text faults (blockScalar isFolded outer) := by
  have hlines : ∀ (lead : List Char × Nat)
      (join : List Char × List Char × List Char → List Char), Stays text faults (do
        let found ←
          if ← atBlockLine lead.2 then blockLines isFolded lead.2 lead.1 (← Reader.steps)
          else pure ([], [], lead.1)
        return join found) := by
    intro lead join
    refine (atBlockLine_stays _).bind fun continues =>
      .ite ?_ ((Stays.pure _).bind fun found => .pure _)
    exact Stays.steps.bind fun count => (blockLines_stays _ _ _ count).bind fun found => .pure _
  refine (Stays.skip 1).bind fun _ => blockSigns_stays.bind fun signs =>
    Stays.closeLine.bind fun _ => ?_
  dsimp only
  split
  · exact Stays.steps.bind fun count => (blockBreaks_stays _ count).bind fun breaks =>
      (Stays.pure _).bind fun lead => hlines lead _
  · exact Stays.steps.bind fun count => (blockLead_stays 0 count).bind fun found =>
      (Stays.pure _).bind fun lead => hlines lead _

end Scalars

/-! ## Anchors, tags and directives -/

section Properties

variable {text : List Char} {faults : ScalarFault → Prop}

lemma anchorName_stays : Stays text faults anchorName := by
  refine (Stays.skip 1).bind fun _ => (Stays.takeWhile _).bind fun name =>
    (Stays.peek? 0).bind fun next => .check (.ite (.pure _) .token)

lemma uriOctets_stays (steps : Nat) : Stays text faults (uriOctets steps) := by
  induction steps with
  | zero => exact .pure _
  | succ steps ih =>
      rw [uriOctets]
      refine (Stays.peek? 0).bind fun c => .ite ?_ (.pure _)
      refine (Stays.skip 1).bind fun _ => (Stays.take 2).bind fun digits => ?_
      split
      · exact .ite (ih.map _) .token
      · exact .token

lemma uriPieces_stays (steps : Nat) : Stays text faults (uriPieces steps) := by
  induction steps with
  | zero => exact .pure _
  | succ steps ih =>
      rw [uriPieces]
      refine (Stays.takeWhile _).bind fun plain => Stays.steps.bind fun count =>
        (uriOctets_stays count).bind fun octets => .ite (.pure _) ?_
      split
      · exact ih.map _
      · exact .token

lemma tagSuffix_stays : Stays text faults tagSuffix :=
  Stays.get.bind fun _ => Stays.steps.bind fun steps => (uriPieces_stays steps).bind fun _ =>
    Stays.get.bind fun _ => .check (.pure _)

lemma tagHandle_stays : Stays text faults tagHandle :=
  (Stays.peek? 0).bind fun _ => .check <| (Stays.skip 1).bind fun _ => (Stays.peek? 0).bind fun _ =>
    .ite (.pure _) <| (Stays.takeWhile _).bind fun _ => (Stays.peek? 0).bind fun _ =>
      .check <| (Stays.skip 1).bind fun _ => .pure _

lemma tagParts_stays : Stays text faults tagParts := by
  have hend : ∀ parts : Option String × String, Stays text faults (do
      if endsText (← Reader.peek? 0) then return parts else throw .token) := fun parts =>
    (Stays.peek? 0).bind fun _ => .ite (.pure _) .token
  have hnamed : ∀ handle : String, Stays text faults (do
      let parts ← pure (some handle, ← tagSuffix)
      if endsText (← Reader.peek? 0) then return parts else throw .token) := fun handle =>
    tagSuffix_stays.bind fun suffix => (Stays.pure _).bind hend
  refine (Stays.peek? 1).bind fun next => .ite ?_ (.ite ?_ ?_)
  · exact (Stays.skip 2).bind fun _ => tagSuffix_stays.bind fun suffix =>
      (Stays.peek? 0).bind fun _ => .check <| (Stays.skip 1).bind fun _ => (Stays.pure _).bind hend
  · exact (Stays.skip 1).bind fun _ => (Stays.pure _).bind hend
  · refine Stays.get.bind fun _ => .ite (tagHandle_stays.bind hnamed) ?_
    exact (Stays.skip 1).bind fun _ => (Stays.pure _).bind hnamed

/-- The digits of a version.  If they are too many, they stand behind the name of the directive. -/
lemma versionNumber_stays {line : List Char} (hline : '%' :: ("YAML".toList ++ line) <:+ text) :
    Stays line (StandsIn text) versionNumber := by
  intro cursor hcursor
  refine (Stays.takeWhile _ cursor hcursor).bind fun digits after hrun hafter => ?_
  have hdigits : digits = cursor.rest.takeWhile Char.isDigit := by
    cases hrun
    exact (List.prefix_iff_eq_take.mp (List.takeWhile_prefix _)).symm
  refine Stays.check ?_ after hafter
  intro after hafter
  by_cases hlong : Text.digitLimit < digits.length
  · rw [if_pos hlong]
    refine ⟨fun number last h => ?_, fun fault h => ?_⟩
    · cases h
    · cases h
      obtain ⟨before, hbefore⟩ := hline
      refine .scalar (@StandsIn.version _ before digits line hbefore.symm ?_ ?_ hlong)
      · rw [hdigits]
        exact (List.takeWhile_prefix _).isInfix.trans hcursor.isInfix
      · rw [hdigits]
        exact List.all_takeWhile
  · rw [if_neg hlong]
    exact Stays.pure _ after hafter

lemma versionDirective_stays {line : List Char} (hline : '%' :: ("YAML".toList ++ line) <:+ text) :
    Stays line (StandsIn text) versionDirective :=
  (Stays.skipWhile _).bind fun _ => (versionNumber_stays hline).bind fun _ =>
    (Stays.peek? 0).bind fun _ => .check <| (Stays.skip 1).bind fun _ =>
      (versionNumber_stays hline).bind fun _ => (Stays.peek? 0).bind fun _ => .ite (.pure _) .token

lemma handleDirective_stays : Stays text faults handleDirective :=
  (Stays.skipWhile _).bind fun _ => tagHandle_stays.bind fun _ => (Stays.peek? 0).bind fun _ =>
    .check <| (Stays.skipWhile _).bind fun _ => tagSuffix_stays.bind fun _ =>
      (Stays.peek? 0).bind fun _ => .ite (.pure _) .token

/-- A directive from its sign on. -/
lemma directive_staysAt {cursor : Cursor} (hcursor : cursor.rest <:+ text)
    (hsign : cursor.peek? 0 = some '%') : StaysAt text (StandsIn text) cursor directive := by
  have hend : ∀ found : Directive, Stays text (StandsIn text) (do
      Reader.closeLine
      return found) := fun found => Stays.closeLine.bind fun _ => .pure _
  refine (Stays.skip 1 cursor hcursor).bind fun _ behind hskip hbehind => ?_
  refine (Stays.takeWhile _ behind hbehind).bind fun name after hname hafter => ?_
  -- the name and what is behind it are all that is left after the sign
  have hrest : '%' :: (name ++ after.rest) = cursor.rest := by
    cases hname
    rw [Cursor.rest_skip, List.take_append_drop]
    cases hskip
    rw [Cursor.rest_skip, List.drop_one]
    exact (Cursor.rest_eq_cons hsign).symm
  refine (Stays.peek? 0 after hafter).bind fun next last hpeek hlast => ?_
  cases hpeek
  refine StaysAt.check ?_ hafter
  by_cases hversion : name = "YAML".toList
  · rw [if_pos hversion]
    rw [← hrest, hversion] at hcursor
    refine ((versionDirective_stays hcursor after (List.suffix_refl _)).mono hafter).bind
      fun found last _ hlast => hend found last hlast
  · rw [if_neg hversion]
    refine Stays.ite (handleDirective_stays.bind hend) ?_ after hafter
    exact (Stays.skipWhile _).bind fun _ => (Stays.pure _).bind hend

end Properties

/-! ## Layouts -/

namespace Layout

/-- A step between two tokens comes to such a position, or it fails: over a character that belongs to
no token, or over a scalar fault that stands in the text. -/
structure Goes (text : List Char) (reached : Cursor → Prop) (result : Except Fault Layout) :
    Prop where
  cursor : ∀ layout, result = .ok layout → reached layout.cursor
  fault : ∀ fault, result = .error fault → Fault.OfStage .token (StandsIn text) fault

variable {text : List Char} {reached further : Cursor → Prop} {layout : Layout}

lemma Goes.ok (h : reached layout.cursor) : Goes text reached (.ok layout) :=
  ⟨by rintro _ ⟨⟩; exact h, by rintro _ ⟨⟩⟩

lemma Goes.token : Goes text reached (.error .token) :=
  ⟨by rintro _ ⟨⟩, by rintro _ ⟨⟩; exact .own⟩

lemma Goes.ite {condition : Prop} [Decidable condition] {first second : Except Fault Layout}
    (h : condition → Goes text reached first) (hother : Goes text reached second) :
    Goes text reached (if condition then first else second) := by
  split
  case isTrue hcondition => exact h hcondition
  case isFalse => exact hother

lemma Goes.bind {result : Except Fault Layout} {next : Layout → Except Fault Layout}
    (h : Goes text reached result)
    (hnext : ∀ layout, reached layout.cursor → Goes text further (next layout)) :
    Goes text further (result >>= next) := by
  cases result with
  | ok layout => exact hnext layout (h.cursor layout rfl)
  | error fault => exact ⟨by rintro _ ⟨⟩, by rintro _ ⟨⟩; exact h.fault fault rfl⟩

/-- A step of reading within a layout. -/
lemma Goes.read {α : Type} {reader : Reader α} {next : α × Layout → Except Fault Layout}
    (h : StaysAt text (StandsIn text) layout.cursor reader)
    (hnext : ∀ a after, after.rest <:+ text →
      Goes text further (next (a, { layout with cursor := after }))) :
    Goes text further (layout.read reader >>= next) := by
  rw [Layout.read]
  cases hrun : reader.run layout.cursor with
  | ok found => exact hnext found.1 found.2 (h.rest _ _ hrun)
  | error fault => exact ⟨by rintro _ ⟨⟩, by rintro _ ⟨⟩; exact h.fault fault hrun⟩

/-! ### Steps that read nothing -/

lemma dropStale_goes : Goes text (· = layout.cursor) layout.dropStale := by
  rw [dropStale]
  split
  · exact .token
  · exact .ok rfl

lemma dropCandidate_goes : Goes text (· = layout.cursor) layout.dropCandidate := by
  rw [dropCandidate]
  split
  · split
    · exact .token
    · exact .ok rfl
  · exact .ok rfl

lemma saveCandidate_goes : Goes text (· = layout.cursor) layout.saveCandidate := by
  rw [saveCandidate]
  split
  · exact dropCandidate_goes.bind fun _ h => .ok h
  · exact .ok rfl

lemma cursor_closeBlocks (column : Int) (outer : List Int) :
    (closeBlocks column outer layout).cursor = layout.cursor := by
  induction outer generalizing layout with
  | nil => rfl
  | cons around outer ih =>
      rw [closeBlocks]
      split
      · exact ih
      · rfl

lemma cursor_unwind (column : Int) : (layout.unwind column).cursor = layout.cursor := by
  rw [unwind]
  split
  · rfl
  · exact cursor_closeBlocks column layout.outer

lemma cursor_openBlock (column place : Nat) (token : Token) :
    (layout.openBlock column place token).cursor = layout.cursor := by
  rw [openBlock]
  split <;> rfl

lemma closeAll_goes : Goes text (· = layout.cursor) layout.closeAll :=
  dropCandidate_goes.bind fun _ h => .ok (h.trans (cursor_unwind _))

/-! ### Single tokens -/

/-- Passing over characters stays within the text. -/
lemma rest_skip_suffix (h : layout.cursor.rest <:+ text) (count : Nat) :
    (layout.cursor.skip count).rest <:+ text := by
  rw [Cursor.rest_skip]
  exact (List.drop_suffix _ _).trans h

variable (hlayout : layout.cursor.rest <:+ text)
include hlayout

lemma fetchEnd_goes : Goes text (·.rest <:+ text) layout.fetchEnd :=
  closeAll_goes.bind fun _ h => .ok (h ▸ hlayout)

lemma fetchDirective_goes (hsign : layout.cursor.peek? 0 = some '%') :
    Goes text (·.rest <:+ text) layout.fetchDirective :=
  closeAll_goes.bind fun _ h => .read (directive_staysAt (h ▸ hlayout) (h ▸ hsign)) fun _ _ h => .ok h

lemma fetchDocumentMark_goes (token : Token) :
    Goes text (·.rest <:+ text) (layout.fetchDocumentMark token) :=
  closeAll_goes.bind fun _ h => .ok (rest_skip_suffix (h ▸ hlayout) 3)

lemma fetchOpening_goes (token : Token) :
    Goes text (·.rest <:+ text) (layout.fetchOpening token) :=
  saveCandidate_goes.bind fun _ h => .ok (rest_skip_suffix (h ▸ hlayout) 1)

lemma fetchClosing_goes (token : Token) :
    Goes text (·.rest <:+ text) (layout.fetchClosing token) :=
  dropCandidate_goes.bind fun _ h => .ok (rest_skip_suffix (h ▸ hlayout) 1)

lemma fetchFlowEntry_goes : Goes text (·.rest <:+ text) layout.fetchFlowEntry :=
  dropCandidate_goes.bind fun _ h => .ok (rest_skip_suffix (h ▸ hlayout) 1)

lemma fetchBlockSign_goes (opening token : Token) (keyAllowed : Bool) :
    Goes text (·.rest <:+ text) (layout.fetchBlockSign opening token keyAllowed) := by
  have hcursor : (if layout.inFlow then layout
      else layout.openBlock layout.cursor.column layout.tokens.length opening).cursor =
        layout.cursor := by
    split
    · rfl
    · exact cursor_openBlock _ _ _
  rw [fetchBlockSign]
  split
  · exact .token
  · exact dropCandidate_goes.bind fun _ h => .ok (rest_skip_suffix ((h.trans hcursor) ▸ hlayout) 1)

lemma fetchValue_goes : Goes text (·.rest <:+ text) layout.fetchValue := by
  rw [fetchValue]
  split
  · refine .ok (rest_skip_suffix ?_ 1)
    dsimp only
    split
    · exact hlayout
    · rw [cursor_openBlock]
      exact hlayout
  · exact fetchBlockSign_goes hlayout _ _ _

lemma fetchContent_goes {reader : Reader Token} (h : Stays text (StandsIn text) reader) :
    Goes text (·.rest <:+ text) (layout.fetchContent reader) :=
  saveCandidate_goes.bind fun _ hsaved =>
    .read (h _ (hsaved ▸ hlayout)) fun _ _ hafter => .ok hafter

lemma fetchBlockScalar_goes (isFolded : Bool) :
    Goes text (·.rest <:+ text) (layout.fetchBlockScalar isFolded) :=
  dropCandidate_goes.bind fun _ hdropped =>
    .read (blockScalar_stays _ _ _ (hdropped ▸ hlayout)) fun _ _ hafter => .ok hafter

lemma fetchPlain_goes : Goes text (·.rest <:+ text) layout.fetchPlain :=
  saveCandidate_goes.bind fun _ hsaved =>
    .read (plainScalar_stays _ _ _ (hsaved ▸ hlayout)) fun _ _ hafter => .ok hafter

/-! ### The next tokens -/

lemma skipBlank_suffix (steps : Nat) : (skipBlank steps layout).cursor.rest <:+ text := by
  induction steps generalizing layout with
  | zero => exact hlayout
  | succ steps ih =>
      rw [skipBlank]
      have hspaces := rest_skip_suffix hlayout (layout.cursor.rest.takeWhile (· == ' ')).length
      generalize layout.cursor.skip _ = cursor at hspaces ⊢
      generalize (if cursor.peek? 0 = some '#' then _ else 0) = comment
      have hcomment : (cursor.skip comment).rest <:+ text := by
        rw [Cursor.rest_skip]
        exact (List.drop_suffix _ _).trans hspaces
      split
      · split
        · refine ih ?_
          rw [Cursor.rest_next]
          exact (List.tail_suffix _).trans hcomment
        · exact hcomment
      · exact hcomment

lemma skipToToken_suffix : layout.skipToToken.cursor.rest <:+ text := by
  refine skipBlank_suffix ?_ _
  split
  · exact rest_skip_suffix hlayout 1
  · exact hlayout

lemma fetchAt_goes {c : Char} (hc : layout.cursor.peek? 0 = some c) :
    Goes text (·.rest <:+ text) (layout.fetchAt c) := by
  have hopening := fetchOpening_goes hlayout
  have hclosing := fetchClosing_goes hlayout
  have hmark := fetchDocumentMark_goes hlayout
  have hsign := fetchBlockSign_goes hlayout
  have hcontent : ∀ reader, Stays text (StandsIn text) reader →
      Goes text (·.rest <:+ text) (layout.fetchContent reader) := fun _ h =>
    fetchContent_goes hlayout h
  rw [fetchAt]
  refine .ite (fun hdirective => ?_) <| .ite (fun _ => hmark _) <| .ite (fun _ => hmark _) <|
    .ite (fun _ => hopening _) <| .ite (fun _ => hopening _) <| .ite (fun _ => hclosing _) <|
    .ite (fun _ => hclosing _) <| .ite (fun _ => fetchFlowEntry_goes hlayout) <|
    .ite (fun _ => hsign _ _ _) <| .ite (fun _ => hsign _ _ _) <|
    .ite (fun _ => fetchValue_goes hlayout) <| .ite (fun _ => hcontent _ (anchorName_stays.map _)) <|
    .ite (fun _ => hcontent _ (anchorName_stays.map _)) <|
    .ite (fun _ => hcontent _ (tagParts_stays.bind fun _ => .pure _)) <|
    .ite (fun _ => fetchBlockScalar_goes hlayout _) <|
    .ite (fun _ => hcontent _ ((quotedScalar_stays _).map _)) <|
    .ite (fun _ => fetchPlain_goes hlayout) .token
  rw [Bool.and_eq_true, beq_iff_eq] at hdirective
  exact fetchDirective_goes hlayout (hdirective.1 ▸ hc)

lemma fetch_goes : Goes text (·.rest <:+ text) layout.fetch := by
  refine dropStale_goes.bind fun dropped hdropped => ?_
  have hplace : (dropped.unwind dropped.cursor.column).cursor = layout.skipToToken.cursor :=
    (cursor_unwind _).trans hdropped
  have hrest : (dropped.unwind dropped.cursor.column).cursor.rest <:+ text :=
    hplace ▸ skipToToken_suffix hlayout
  dsimp only
  split
  · exact fetchEnd_goes hrest
  · rename_i c rest hfound
    refine fetchAt_goes hrest ?_
    rw [Cursor.peek?, hfound]
    rfl

end Layout

/-! ## Tokens -/

/-- Reading on breaks off over a character that belongs to no token, or over a scalar fault that stands
in the text.  By induction on the bound, with the cursor staying an ending of the text. -/
lemma Tokens.fault_ofLayout {text : List Char} {layout : Layout} {fault : Fault}
    (hlayout : layout.cursor.rest <:+ text) {settled steps : Nat}
    (h : (ofLayout settled steps layout).fault = some fault) :
    Fault.OfStage .token (StandsIn text) fault := by
  induction steps generalizing settled layout with
  | zero =>
      cases h
      exact .own
  | succ steps ih =>
      rw [ofLayout] at h
      split at h
      · cases h
      have hstale := @Layout.dropStale_goes text layout
      split at h
      · rename_i found hfound
        cases h
        exact hstale.fault fault hfound
      rename_i dropped hdropped
      have hplace := hstale.cursor dropped hdropped
      have hfetch := Layout.fetch_goes (hplace ▸ hlayout)
      split at h
      · rename_i found hfound
        cases h
        exact hfetch.fault fault hfound
      · rename_i next hnext
        exact ih (hfetch.cursor next hnext) h

/-- **Where reading breaks off**: if over a scalar fault, then that stands in the text itself, as an
escape beyond the last character or in the version of a directive. -/
theorem Tokens.fault_ofChars {chars : List Char} {fault : Fault}
    (h : (ofChars chars).fault = some fault) : Fault.OfStage .token (StandsIn chars) fault :=
  fault_ofLayout (List.suffix_refl chars) h

end FilterQuery.Yaml
