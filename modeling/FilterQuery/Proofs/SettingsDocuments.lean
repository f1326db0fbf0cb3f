import Mathlib.Tactic.Common
import FilterQuery.Failure
import FilterQuery.Proofs.Mappings
import FilterQuery.Proofs.Rows

/-!
# Which documents are settings

A document has to be a mapping, and an empty one counts as an empty mapping.  What is taken for empty is
every value that counts as false.

**Keys.**  No key of a mapping that a document says comes again (`Yaml.Node.isDistinct_of_value`), so that
it is what comes of putting its entries together.

**Documents.**  `Settings.ofFile_of_document` says what comes of each value of a document: for an empty
one and for a mapping what comes of the same value given directly, and for any other one an error exactly
if it counts as true.
-/

namespace FilterQuery

open FilterQuery.Sql (bind_eq_ok map_eq_ok mapError_eq_ok)

/-! ## Documents -/

namespace Yaml

/-- A scalar is no mapping. -/
lemma scalarValue_ne_mapping (tag : Tag) (text : String) (entries : Mapping) :
    scalarValue tag text ≠ .ok (.mapping entries) := by
  intro h
  cases tag with
  | truth =>
      simp only [scalarValue] at h
      split at h <;> cases h
  | integer =>
      obtain ⟨number, -, hnumber⟩ := map_eq_ok.mp (mapError_eq_ok.mp h)
      cases hnumber
  | number =>
      obtain ⟨number, -, hnumber⟩ := map_eq_ok.mp (mapError_eq_ok.mp h)
      cases hnumber
  | binary =>
      simp only [scalarValue] at h
      split at h
      · split at h <;> cases h
      · cases h
  | timestamp =>
      simp only [scalarValue] at h
      split at h
      · obtain ⟨day, -, hday⟩ := map_eq_ok.mp (mapError_eq_ok.mp h)
        cases hday
      · obtain ⟨time, -, htime⟩ := map_eq_ok.mp (mapError_eq_ok.mp h)
        cases htime
      · cases h
  | _ => cases h

/-- Nor is what stands for one. -/
lemma plainValue_ne_mapping (round : Nat) (tag : Tag) (text : Option String) (entries : Mapping) :
    Node.plainValue round tag text ≠ .ok (.mapping entries) := by
  cases text with
  | none => exact nofun
  | some text => exact fun h => scalarValue_ne_mapping tag text entries (mapError_eq_ok.mp h)

/-- Of all nodes only mappings say one, and its keys are apart. -/
lemma Node.isDistinct_of_value {node : Node} {round : Nat} {entries : Mapping}
    (h : node.value round = .ok (.mapping entries)) : entries.IsDistinct := by
  cases node with
  | enclosing => cases h
  | scalar tag text =>
      rw [Node.value] at h
      split at h
      · cases h
      · exact absurd h (plainValue_ne_mapping round tag _ entries)
  | sequence tag items =>
      -- A sequence says a list or nothing.
      simp only [Node.value] at h
      split at h <;> simp [map_eq_ok, within] at h
  | mapping tag nodes =>
      simp only [Node.value] at h
      split at h
      · obtain ⟨found, -, hfound⟩ := map_eq_ok.mp h
        cases hfound
        exact Mapping.isDistinct_ofPairs found
      · obtain ⟨found, -, hfound⟩ := map_eq_ok.mp h
        cases hfound
      · cases h
      · cases h
      · cases h
      · exact absurd h (plainValue_ne_mapping round _ _ entries)

/-- A document that is a mapping has its keys apart. -/
lemma isDistinct_of_readDocument {octets : List UInt8} {entries : Mapping}
    (h : readDocument octets = .ok (.mapping entries)) : entries.IsDistinct := by
  obtain ⟨chars, -, hchars⟩ := bind_eq_ok.mp h
  rw [valueOfChars] at hchars
  split at hchars
  · cases hchars
  · obtain ⟨node, -, hnode⟩ := bind_eq_ok.mp hchars
    cases node with
    | none => cases hnode
    | some node => exact Node.isDistinct_of_value (mapError_eq_ok.mp hnode)

/-- A document that is read as a whole number is that number. -/
lemma readDocument_eq_int {octets : List UInt8} {n : Int}
    (h : (readDocument octets).toOption.bind Logging.Whole.ofValue? = some (.number n)) :
    readDocument octets = .ok (.int n) := by
  obtain ⟨value, hvalue, hwhole⟩ := Option.bind_eq_some_iff.mp h
  obtain rfl := (Logging.Whole.ofValue?_eq_some_iff value _).mp hwhole
  cases hread : readDocument octets with
  | error fault => simp [hread, Except.toOption] at hvalue
  | ok found =>
      rw [hread] at hvalue
      rw [Option.some.inj hvalue]
      rfl

end Yaml

namespace Settings

variable {path : String} {octets : List UInt8} {value : Value}

/-- The settings of a file are those of the value of its document. -/
lemma ofFile_of_readDocument (hpath : '\x00' ∉ path.toList)
    (hvalue : Yaml.readDocument octets = .ok value) :
    ofFile path (.content octets) = ofDocument path value := by
  have hnull : path.toList.contains '\x00' = false := by simpa using hpath
  rw [ofFile, hnull, hvalue]
  rfl

/-- A mapping whose keys are apart is read as it stands. -/
lemma ofValue_mapping {entries : Mapping} (h : entries.IsDistinct) :
    ofValue (.mapping entries) = (ofMapping entries).mapError .invalid := by
  rw [ofValue, Mapping.ofValue_of_isDistinct h]
  rfl

/-- What comes of a mapping in a document is what comes of it directly, and the file is told of. -/
lemma ofDocument_mapping {entries : Mapping} (h : entries.IsDistinct) :
    ofDocument path (.mapping entries) =
      ((ofValue (.mapping entries)).mapError .settings, [.loadedFile path]) := by
  have hcounted : (if (Value.mapping entries).isTruthy then Value.mapping entries else .mapping [])
      = .mapping entries := by
    cases entries <;> rfl
  rw [ofDocument, hcounted, ofValue_mapping h]
  cases hfound : ofMapping entries <;> simp only [hfound] <;> rfl

/-- A value that counts as false is taken for an empty mapping. -/
lemma ofDocument_of_isTruthy_eq_false (h : value.isTruthy = false) :
    ofDocument path value = ofDocument path (.mapping []) := by
  rw [ofDocument, h]
  rfl

/-- Any other value that counts as true is refused. -/
lemma ofDocument_of_isTruthy (h : value.isTruthy = true)
    (hother : ∀ entries, value ≠ .mapping entries) :
    ofDocument path value = (.error (.notMapping path), []) := by
  simp only [ofDocument, h, if_true]

/-- **Which documents are settings.**  Of a file whose document has a value, an empty document is what an
empty mapping is, and a mapping is what it is when given directly: the same settings, or the same error.
Any other value is refused with the library's own error just if it counts as true.  One that counts as
false passes for an empty mapping. -/
theorem ofFile_of_document (hpath : '\x00' ∉ path.toList)
    (hvalue : Yaml.readDocument octets = .ok value) :
    (value = .null → ofFile path (.content octets) =
      ((ofValue (.mapping [])).mapError .settings, [.loadedFile path])) ∧
    (∀ entries, value = .mapping entries → ofFile path (.content octets) =
      ((ofValue value).mapError .settings, [.loadedFile path])) ∧
    (value ≠ .null → (∀ entries, value ≠ .mapping entries) →
      ((∃ fault : FileFault, (ofFile path (.content octets)).1 = .error fault ∧
          fault.report.kind = "ConfigurationError") ↔ value.isTruthy = true) ∧
      (value.isTruthy = false → ofFile path (.content octets) =
        ((ofValue (.mapping [])).mapError .settings, [.loadedFile path]))) := by
  rw [ofFile_of_readDocument hpath hvalue]
  have hempty : value.isTruthy = false → ofDocument path value =
      ((ofValue (.mapping [])).mapError .settings, [.loadedFile path]) := fun h =>
    (ofDocument_of_isTruthy_eq_false h).trans (ofDocument_mapping List.Pairwise.nil)
  refine ⟨?_, ?_, fun _ hother => ⟨⟨?_, fun h => ?_⟩, hempty⟩⟩
  · rintro rfl
    exact hempty rfl
  · rintro entries rfl
    exact ofDocument_mapping (Yaml.isDistinct_of_readDocument hvalue)
  · rintro ⟨fault, hfault, -⟩
    by_contra hfalsy
    rw [hempty (by simpa using hfalsy)] at hfault
    cases hfault
  · rw [ofDocument_of_isTruthy h hother]
    exact ⟨_, rfl, rfl⟩

/-- A document that is one is refused. -/
theorem refused_of_one :
    let octets := "1".toList.flatMap String.utf8EncodeChar
    Yaml.readDocument octets = .ok (.int 1) ∧
      ∃ fault : FileFault, (ofFile "settings.yaml" (.content octets)).1 = .error fault ∧
        fault.report.kind = "ConfigurationError" := by
  intro octets
  have hvalue : Yaml.readDocument octets = .ok (.int 1) :=
    Yaml.readDocument_eq_int (by decide +kernel)
  have hpath : '\x00' ∉ "settings.yaml".toList := by decide
  exact ⟨hvalue, ((ofFile_of_document hpath hvalue).2.2 nofun fun _ => nofun).1.mpr rfl⟩

/-- A document that is zero is no mapping either, and nothing is refused. -/
theorem not_refused_of_zero :
    let octets := "0".toList.flatMap String.utf8EncodeChar
    Yaml.readDocument octets = .ok (.int 0) ∧
      (ofFile "settings.yaml" (.content octets)).1.toOption.isSome = true := by
  intro octets
  have hvalue : Yaml.readDocument octets = .ok (.int 0) :=
    Yaml.readDocument_eq_int (by decide +kernel)
  refine ⟨hvalue, ?_⟩
  rw [ofFile_of_readDocument (by decide) hvalue, ofDocument_of_isTruthy_eq_false rfl]
  rfl

end Settings

end FilterQuery
