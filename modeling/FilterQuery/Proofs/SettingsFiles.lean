import FilterQuery.Failure
import FilterQuery.Proofs.Composing
import FilterQuery.Proofs.Decoding

/-!
# Which settings files are reported

Reading settings from a file answers with settings or with an error, and of the errors the library's own
is the one that is promised.  This file says exactly when another one leaves.

**Kinds.**  `scalarErrors` are the kinds that scalars without a value end in; with the kind for bytes
that are no characters these are all that a document can add (`kind_documentReport_iff`).

**Files.**  `isReported_ofFile_iff` goes through all that can be at a path.  The faults of a document are
those of `fault_of_valueOfChars`, and its bytes are characters by `decodeUtf8_eq_ok_iff`, so that the
condition speaks of the text of the file and of the scalars it describes.  What `FilterQuery.Yaml.Document`
takes for granted is taken for granted here: a document is decoded before it is scanned, and the depth of
its nesting is no fault.
-/

namespace FilterQuery

open Yaml

/-! ## Kinds of reports -/

/-- The kinds of errors that scalars without a value end in.  The library's own is not among them. -/
def scalarErrors : List String :=
  ["ValueError", "KeyError", "IndexError", "AttributeError", "OverflowError"]

lemma Yaml.ScalarFault.kind_report_mem (fault : ScalarFault) :
    fault.report.kind ∈ scalarErrors := by
  cases fault
  case noCharacter code =>
    rw [report]
    split <;> simp [scalarErrors]
  all_goals simp [report, notIntegerReport, tooManyDigitsReport, scalarErrors]

lemma Yaml.ScalarFault.kind_report_ne (fault : ScalarFault) :
    fault.report.kind ≠ "ConfigurationError" := fun h => by
  have hmem := fault.kind_report_mem
  rw [h] at hmem
  simp [scalarErrors] at hmem

/-- Of the faults of a document all are reported but those of bytes and of scalars. -/
lemma kind_documentReport_iff (path : String) (fault : Fault) :
    (documentReport path fault).kind = "ConfigurationError" ↔
      (∀ place, fault ≠ .encoding place) ∧ ∀ scalar, fault ≠ .scalar scalar := by
  cases fault with
  | encoding place => simp [documentReport]
  | scalar scalar => simpa [documentReport] using scalar.kind_report_ne
  | _ => simp [documentReport]

namespace Settings

/-- There are settings, or the error is one of the library's own. -/
def IsReported (result : Except FileFault Settings) : Prop :=
  ∀ fault, result = .error fault → fault.report.kind = "ConfigurationError"

lemma isReported_error_iff {fault : FileFault} :
    IsReported (.error fault) ↔ fault.report.kind = "ConfigurationError" := by
  refine ⟨fun h => h fault rfl, fun h found hfound => ?_⟩
  cases hfound
  exact h

instance (result : Except FileFault Settings) : Decidable (IsReported result) :=
  match result with
  | .ok _ => isTrue fun _ h => nomatch h
  | .error _ => decidable_of_iff _ isReported_error_iff.symm

/-- Whatever the value of a document is, it is settings or it is reported. -/
lemma isReported_ofDocument (path : String) (value : Value) :
    IsReported (ofDocument path value).1 := by
  intro fault h
  rw [ofDocument] at h
  generalize (if value.isTruthy then value else .mapping []) = counted at h
  split at h
  · rename_i entries
    cases hsettings : ofMapping entries with
    | ok settings =>
        rw [hsettings] at h
        cases h
    | error issues =>
        rw [hsettings] at h
        cases h
        rfl
  · cases h
    rfl

/-- A document leaves with another error only over bytes that are no characters or over a scalar. -/
lemma isReported_document_iff (path : String) (fault : Fault) :
    IsReported (.error (.document path fault)) ↔
      (∀ place, fault ≠ .encoding place) ∧ ∀ scalar, fault ≠ .scalar scalar := by
  rw [isReported_error_iff, ← kind_documentReport_iff path]
  rfl

/-- The characters of a file have settings or are reported, but for scalar faults. -/
lemma isReported_chars_iff (path : String) (chars : List Char) :
    IsReported
        (match valueOfChars chars with
        | .ok value => ofDocument path value
        | .error fault => (.error (.document path fault), [])).1 ↔
      ∀ scalar, valueOfChars chars ≠ .error (.scalar scalar) := by
  cases hvalue : valueOfChars chars with
  | ok value => exact iff_of_true (isReported_ofDocument path value) fun _ => nofun
  | error fault =>
      have hencoding : ∀ place, fault ≠ .encoding place := by
        rintro place rfl
        obtain hmem | ⟨scalar, hscalar, -⟩ := fault_of_valueOfChars hvalue
        · simp at hmem
        · cases hscalar
      rw [isReported_document_iff]
      simp [hencoding]

/-- The bytes of a file have settings or are reported just if they are characters, without a scalar
fault. -/
lemma isReported_content_iff {path : String} (octets : List UInt8)
    (hpath : '\x00' ∉ path.toList) :
    IsReported (ofFile path (.content octets)).1 ↔
      ∃ chars : List Char, octets = chars.flatMap String.utf8EncodeChar ∧
        ∀ scalar, valueOfChars (unifyBreaks chars) ≠ .error (.scalar scalar) := by
  have hnull : path.toList.contains '\x00' = false := by simpa using hpath
  rw [ofFile, hnull, readDocument]
  cases hdecode : Text.decodeUtf8 octets with
  | error place =>
      refine iff_of_false (fun h => ?_) fun ⟨chars, hchars, _⟩ => ?_
      · exact ((isReported_document_iff path _).mp h).1 place rfl
      · rw [Text.decodeUtf8_eq_ok_iff.mpr hchars] at hdecode
        cases hdecode
  | ok chars =>
      have hchars := Text.decodeUtf8_eq_ok_iff.mp hdecode
      refine (isReported_chars_iff path (unifyBreaks chars)).trans
        ⟨fun h => ⟨chars, hchars, h⟩, fun ⟨others, hothers, h⟩ => ?_⟩
      rw [Text.decodeUtf8_eq_ok_iff.mpr hothers] at hdecode
      cases hdecode
      exact h

/-- **Which files are reported.**  Whatever is found at a path, either settings are returned or the error
is one of the library's own, unless the path holds a null character, the bytes of the file are no
characters, or the document comes upon a scalar fault.  Such a fault stands in the text itself or in a
scalar that is described by it, which then is a truth value, a number or a time. -/
theorem isReported_ofFile_iff (path : String) (state : FileState) :
    (IsReported (ofFile path state).1 ↔
      '\x00' ∉ path.toList ∧ ∀ octets, state = .content octets →
        ∃ chars : List Char, octets = chars.flatMap String.utf8EncodeChar ∧
          ∀ scalar, valueOfChars (unifyBreaks chars) ≠ .error (.scalar scalar)) ∧
    (∀ chars scalar, valueOfChars chars = .error (.scalar scalar) →
      StandsIn chars scalar ∨
        ∃ node, Node.ofTokens (Tokens.ofChars chars) = .ok (some node) ∧ node.Misread scalar) ∧
    ∀ tag text scalar, scalarValue tag text = .error (.scalar scalar) →
      tag ∈ [Tag.truth, .integer, .number, .timestamp] := by
  refine ⟨?_, fun chars scalar h => ?_, fun tag text scalar h => ?_⟩
  · by_cases hpath : '\x00' ∈ path.toList
    · refine iff_of_false (fun h => ?_) fun h => h.1 hpath
      unfold ofFile at h
      rw [if_pos (by simpa using hpath), isReported_error_iff] at h
      exact absurd h (by decide)
    · cases state with
      | content octets => simp [isReported_content_iff octets hpath, hpath]
      | missing => simp [ofFile, isReported_error_iff, FileFault.report, hpath]
      | directory => simp [ofFile, isReported_error_iff, FileFault.report, hpath]
      | refused kind reason => simp [ofFile, isReported_error_iff, FileFault.report, hpath]
  · obtain hmem | ⟨_, heq, hplace⟩ := fault_of_valueOfChars h
    · simp at hmem
    · cases heq
      exact hplace
  · obtain heq | ⟨-, htag⟩ := scalarValue_fault h
    · cases heq
    · exact htag

/-- A file of one byte that starts no character, and a file with a day that no calendar has. -/
theorem not_isReported_of_octet :
    ¬ IsReported (ofFile "settings.yaml" (.content [0xff])).1 ∧
      ¬ IsReported (ofFile "settings.yaml"
        (.content ("a: 2021-02-30".toList.flatMap String.utf8EncodeChar))).1 := by
  decide +kernel

end Settings

end FilterQuery
