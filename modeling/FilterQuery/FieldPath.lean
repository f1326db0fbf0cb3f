import FilterQuery.Value.Display
import FilterQuery.Value.Mapping

/-!
# Field paths

A field is named by a path: relationship names followed by a field name.  Paths are declared as
dotted text or as a sequence of names; `FieldPath.ofValue` brings both into one form, the list of
segments.

* `FieldPath.splitDots` and `FieldPath.dotted` — from dotted text to segments and back.
* `FieldPath.ofValue` — the path that a declaration gives, or why it gives none.
-/

namespace FilterQuery

/-- The segments of a path, relationships first and the field last. -/
abbrev FieldPath := List String

/-- Why a declaration gives no path. -/
inductive PathFault where
  /-- There are no segments, or one of them is empty; the declaration is shown. -/
  | emptySegment (declared : String)
  /-- A value of this type has no segments. -/
  | notIterable (type : String)
  deriving DecidableEq, Repr

namespace FieldPath

/-- The segments of a text between its dots.  There is always at least one. -/
def splitDots : List Char → List Char × List (List Char)
  | [] => ([], [])
  | c :: rest =>
    let (first, others) := splitDots rest
    if c = '.' then ([], first :: others) else (c :: first, others)

/-- A dot ends an empty segment. -/
theorem splitDots_dot (rest : List Char) :
    splitDots ('.' :: rest) = ([], (splitDots rest).1 :: (splitDots rest).2) :=
  rfl

/-- Any other character belongs to the first segment. -/
theorem splitDots_of_ne {c : Char} (h : c ≠ '.') (rest : List Char) :
    splitDots (c :: rest) = (c :: (splitDots rest).1, (splitDots rest).2) := by
  simp only [splitDots, if_neg h]

/-- The segments of a dotted text. -/
def ofDotted (text : String) : FieldPath :=
  let (first, others) := splitDots text.toList
  (first :: others).map String.ofList

/-- The dotted form of a path, used in logs and errors. -/
def dotted (path : FieldPath) : String :=
  ".".intercalate path

/-- The segments that a declaration gives: the parts of a text, or the texts of a sequence. -/
def segments? (declared : Value) : Option FieldPath :=
  match declared.text? with
  | some text => some (ofDotted text)
  | none => declared.items?.map (·.map Value.display)

/-- The path that a declaration gives: at least one segment, and none empty. -/
def ofValue (declared : Value) : Except PathFault FieldPath :=
  match segments? declared with
  | none => .error (.notIterable declared.qualifiedTypeName)
  | some path =>
    if path.isEmpty || path.any String.isEmpty then .error (.emptySegment declared.literal)
    else .ok path

end FieldPath

end FilterQuery
