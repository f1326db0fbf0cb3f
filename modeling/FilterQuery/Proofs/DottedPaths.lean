import Mathlib.Data.List.Infix
import Mathlib.Tactic.Common
import FilterQuery.Definition

/-!
# Dotted paths

A path is cut out of a dotted text and put together again for logs and errors.

**Cutting.**  `FieldPath.cons_splitDots`: the segments between the dots are the parts of the text that
the dot separates, so that putting them together gives the text back (`FieldPath.dotted_ofDotted`), and
cutting a dotted path gives its segments back (`FieldPath.ofDotted_dotted`).

**Empty segments.**  `FieldPath.HasEmptySegment` says which texts have one by where their dots stand,
and `FieldPath.empty_mem_ofDotted` that these are the texts with an empty
segment.  They name no path (`FieldPath.ofValue_text`).

`FieldPath.dotted_inverse` puts both together, for all texts and for all paths.
-/

namespace FilterQuery.FieldPath

/-! ## Cutting and putting together -/

/-- The segments of a text, the first and the others, are its parts between dots. -/
lemma cons_splitDots (text : List Char) :
    (splitDots text).1 :: (splitDots text).2 = text.splitOn '.' := by
  induction text with
  | nil => rfl
  | cons c rest ih =>
      rw [List.splitOn, List.splitOnP_cons_eq_if_modifyHead, ← List.splitOn, ← ih]
      by_cases hdot : c = '.'
      · subst hdot
        simp [splitDots_dot]
      · simp [splitDots_of_ne hdot, hdot]

lemma ofDotted_eq (text : String) :
    ofDotted text = (text.toList.splitOn '.').map String.ofList := by
  rw [ofDotted, ← cons_splitDots]

/-- Segments that are put together with dots are the text that they were cut out of. -/
lemma dotted_ofDotted (text : String) : dotted (ofDotted text) = text := by
  have hsegments : (ofDotted text).map String.toList = text.toList.splitOn '.' := by
    simp [ofDotted_eq]
  refine String.toList_inj.mp ?_
  calc (dotted (ofDotted text)).toList
      = ['.'].intercalate ((ofDotted text).map String.toList) := String.toList_intercalate
    _ = ['.'].intercalate (text.toList.splitOn '.') := by rw [hsegments]
    _ = text.toList := List.intercalate_splitOn '.'

/-- A path has segments, all of them names without a dot. -/
structure IsPlain (path : FieldPath) : Prop where
  ne_nil : path ≠ []
  named : ∀ segment ∈ path, segment ≠ ""
  undotted : ∀ segment ∈ path, '.' ∉ segment.toList

/-- A plain path is cut out of its dotted text as it was. -/
lemma ofDotted_dotted {path : FieldPath} (h : IsPlain path) : ofDotted (dotted path) = path := by
  have htext : (dotted path).toList = ['.'].intercalate (path.map String.toList) :=
    String.toList_intercalate
  have hcut : (dotted path).toList.splitOn '.' = path.map String.toList := by
    rw [htext]
    refine List.splitOn_intercalate '.' ?_ (by simpa using h.ne_nil)
    simpa using h.undotted
  rw [ofDotted_eq, hcut, List.map_map]
  simp

/-! ## Empty segments -/

/-- A text is empty, or a dot stands at its beginning, at its end or right behind another dot. -/
def HasEmptySegment (text : List Char) : Prop :=
  text = [] ∨ ['.'] <+: text ∨ ['.'] <:+ text ∨ ['.', '.'] <:+: text

/-- The first segment is empty where the text is empty or begins with a dot. -/
lemma splitDots_fst_eq_nil {text : List Char} :
    (splitDots text).1 = [] ↔ text = [] ∨ ['.'] <+: text := by
  cases text with
  | nil => simp [splitDots]
  | cons c rest =>
      rw [List.cons_prefix_cons]
      by_cases hdot : c = '.'
      · simp [splitDots, hdot]
      · simp [splitDots, hdot, Ne.symm hdot]

/-- Any other segment is empty where the text ends with a dot or has two of them in a row: by
induction on the text, a dot hands the question on to the first segment behind it. -/
lemma nil_mem_splitDots {text : List Char} :
    [] ∈ (splitDots text).2 ↔ ['.'] <:+ text ∨ ['.', '.'] <:+: text := by
  induction text with
  | nil => simp [splitDots]
  | cons c rest ih =>
      rw [List.suffix_cons_iff, List.infix_cons_iff, List.cons_prefix_cons]
      by_cases hdot : c = '.'
      · subst hdot
        have hstep : [] ∈ (splitDots ('.' :: rest)).2 ↔
            (splitDots rest).1 = [] ∨ [] ∈ (splitDots rest).2 := by
          rw [splitDots_dot, List.mem_cons]
          exact or_congr_left eq_comm
        have hlast : ['.'] = '.' :: rest ↔ rest = [] := by
          rw [List.cons_inj_right]
          exact eq_comm
        rw [hstep, splitDots_fst_eq_nil, ih, hlast]
        tauto
      · have hstep : [] ∈ (splitDots (c :: rest)).2 ↔ [] ∈ (splitDots rest).2 := by
          rw [splitDots_of_ne hdot]
        rw [hstep, ih]
        simp [Ne.symm hdot]

lemma empty_mem_ofDotted {text : String} :
    "" ∈ ofDotted text ↔ HasEmptySegment text.toList := by
  have hsegment : "" ∈ ofDotted text ↔
      [] ∈ (splitDots text.toList).1 :: (splitDots text.toList).2 := by
    rw [ofDotted, List.mem_map]
    simp [String.ofList_eq_empty_iff]
  rw [hsegment, List.mem_cons, eq_comm, splitDots_fst_eq_nil, nil_mem_splitDots, HasEmptySegment,
    or_assoc]

/-! ## Declared paths -/

/-- What is declared is the path of its segments, if it has some and none is empty. -/
lemma ofValue_of_segments {declared : Value} {segments : FieldPath}
    (h : segments? declared = some segments) :
    ofValue declared = if segments = [] ∨ "" ∈ segments then
      .error (.emptySegment declared.literal) else .ok segments := by
  have hempty : (segments.isEmpty || segments.any String.isEmpty) =
      decide (segments = [] ∨ "" ∈ segments) := by
    rw [Bool.eq_iff_iff]
    simp
  simp only [ofValue, h, hempty, decide_eq_true_eq]

lemma ofValue_eq_ok {declared : Value} {path : FieldPath} :
    ofValue declared = .ok path ↔ segments? declared = some path ∧ path ≠ [] ∧ "" ∉ path := by
  cases hsegments : segments? declared with
  | none => simp [ofValue, hsegments]
  | some segments =>
      rw [ofValue_of_segments hsegments, Option.some.injEq]
      split_ifs with hempty
      · refine iff_of_false nofun ?_
        rintro ⟨rfl, hsome, hnamed⟩
        exact hempty.elim hsome hnamed
      · rw [Except.ok.injEq, iff_self_and]
        rintro rfl
        exact not_or.mp hempty

/-- A text names the path of its segments, unless one of them is empty. -/
lemma ofValue_text (text : String) :
    ofValue (.str text) = if "" ∈ ofDotted text then
      .error (.emptySegment (Value.str text).literal) else .ok (ofDotted text) := by
  have hsegments : segments? (.str text) = some (ofDotted text) := rfl
  have hsome : ofDotted text ≠ [] := nofun
  rw [ofValue_of_segments hsegments]
  simp only [hsome, false_or]

/-- A path is its own declaration, as a tuple and as a list. -/
lemma segments?_of_path (path : FieldPath) :
    segments? (.tuple (path.map Value.str)) = some path ∧
      segments? (.list (path.map Value.str)) = some path := by
  have hdisplay : (path.map Value.str).map Value.display = path := by
    rw [List.map_map]
    exact List.map_id path
  exact ⟨congrArg some hdisplay, congrArg some hdisplay⟩

/-- **Paths and their dotted names.**  A text names no path exactly if it has an empty segment, and else
a path whose dotted form it is; a plain path is what its dotted name names; and a path that is declared
segment by segment stays as it is. -/
theorem dotted_inverse :
    (∀ text : String, HasEmptySegment text.toList ↔
      ofValue (.str text) = .error (.emptySegment (Value.str text).literal)) ∧
    (∀ text : String, ¬HasEmptySegment text.toList →
      ∃ path, ofValue (.str text) = .ok path ∧ dotted path = text) ∧
    (∀ field : FieldFilter, IsPlain field.path → ofValue (.str field.name) = .ok field.path) ∧
    (∀ (declared : Value) (path : FieldPath), ofValue declared = .ok path →
      ofValue (.tuple (path.map Value.str)) = .ok path ∧
      ofValue (.list (path.map Value.str)) = .ok path) := by
  refine ⟨fun text => ?_, fun text hnone => ?_, fun field hplain => ?_, fun declared path h => ?_⟩
  · rw [← empty_mem_ofDotted, ofValue_text]
    split_ifs with hempty
    · exact iff_of_true hempty rfl
    · exact iff_of_false hempty nofun
  · rw [← empty_mem_ofDotted] at hnone
    exact ⟨ofDotted text, by rw [ofValue_text, if_neg hnone], dotted_ofDotted text⟩
  · have hcut : ofDotted field.name = field.path := ofDotted_dotted hplain
    have hnamed : "" ∉ field.path := fun hempty => hplain.named "" hempty rfl
    rw [ofValue_text, hcut, if_neg hnamed]
  · obtain ⟨-, hvalid⟩ := ofValue_eq_ok.mp h
    obtain ⟨htuple, hlist⟩ := segments?_of_path path
    exact ⟨ofValue_eq_ok.mpr ⟨htuple, hvalid⟩, ofValue_eq_ok.mpr ⟨hlist, hvalid⟩⟩

/-- The name of `comments.author.name` names this path; a text with two dots in a row names none. -/
theorem dotted_inverse_comments :
    ofValue (.str (FieldFilter.name ⟨["comments", "author", "name"], []⟩)) =
        .ok ["comments", "author", "name"] ∧
      ofValue (.str "comments..name") =
        .error (.emptySegment (Value.str "comments..name").literal) := by
  obtain ⟨hempty, -, hname, -⟩ := dotted_inverse
  have hplain : IsPlain ["comments", "author", "name"] :=
    ⟨by simp, by decide, by decide⟩
  have hdots : HasEmptySegment "comments..name".toList :=
    .inr (.inr (.inr ⟨"comments".toList, "name".toList, rfl⟩))
  exact ⟨hname ⟨["comments", "author", "name"], []⟩ hplain, (hempty "comments..name").mp hdots⟩

end FilterQuery.FieldPath
