import Mathlib.Tactic.Common
import FilterQuery.Operand
import FilterQuery.Proofs.Rows
import FilterQuery.Sample

/-!
# Comparisons and presence

How the operators that compare, and the one that asks whether a cell is empty, divide the cells of a
column among them.

**Values.**  A comparison is about two cells that hold something, and these are always in an order.
That a parameter holds something before it is put beside a column does not say that it does then: a
text may be turned into a number there.  No not-a-number comes of that, since what is too large for
the format becomes infinite: `Double.isNaN_ofDecimal` and `comparand_hasValue`.

**Verdicts.**  `Operator.verdict` is what an operator says of a cell.  With a value that a comparison
can take, exactly one of less, equal, greater and empty is said of every cell, and the other operators
say what these say together: `verdicts_partition`.
-/

namespace FilterQuery

open FilterQuery.Sql

/-! ## Values -/

namespace Double

/-- A magnitude below that of infinity is a number, with either sign. -/
lemma isNaN_of_magnitude {magnitude sign : Nat} (h : magnitude < 0x7ff0000000000000)
    (hsign : sign = signBit ∨ sign = 0) :
    (⟨UInt64.ofNat (magnitude + sign)⟩ : Double).isNaN = false := by
  rw [signBit] at hsign
  have hbits : (UInt64.ofNat (magnitude + sign)).toNat = magnitude + sign := by
    rw [UInt64.toNat_ofNat']
    omega
  have hexponent : (magnitude + sign) / leadingBit % 2048 ≠ 2047 := by
    rw [leadingBit]
    omega
  rw [isNaN, exponentField, hbits, beq_false_of_ne hexponent, Bool.false_and]

/-- What is too large for the format becomes infinite, and that is a number too. -/
lemma isNaN_of_overflow (negative : Bool) (magnitude : Nat) :
    (if 0x7ff0000000000000 ≤ magnitude then infinityOf negative
      else ⟨UInt64.ofNat (magnitude + if negative then signBit else 0)⟩ : Double).isNaN = false := by
  by_cases hlarge : 0x7ff0000000000000 ≤ magnitude
  · rw [if_pos hlarge]
    cases negative <;> decide
  · rw [if_neg hlarge]
    exact isNaN_of_magnitude (Nat.lt_of_not_le hlarge) (by cases negative <;> simp)

/-- Rounding a quotient gives a number. -/
lemma isNaN_ofQuotient (negative : Bool) (top bottom : Nat) :
    (ofQuotient negative top bottom).isNaN = false := by
  rw [ofQuotient]
  by_cases hzero : (top = 0 || bottom = 0) = true
  · rw [if_pos hzero]
    cases negative <;> decide
  · rw [if_neg hzero]
    exact isNaN_of_overflow negative _

/-- So does reading a decimal. -/
lemma isNaN_ofDecimal (negative : Bool) (digits : Nat) (exponent : Int) :
    (ofDecimal negative digits exponent).isNaN = false := by
  rw [ofDecimal]
  split_ifs
  · cases negative <;> decide
  · cases negative <;> decide
  · cases negative <;> decide
  · exact isNaN_ofQuotient ..
  · exact isNaN_ofQuotient ..

end Double

namespace Sql

/-- A cell holds something: it is as the database keeps it, and not empty. -/
def Cell.HasValue (cell : Cell) : Prop :=
  cell.IsStored ∧ cell ≠ .null

/-- A number with a fraction that is read from a text holds something. -/
lemma Cell.hasValue_ofDecimal (negative : Bool) (digits : Nat) (exponent : Int) :
    (Cell.real (.ofDecimal negative digits exponent)).HasValue :=
  ⟨Double.isNaN_ofDecimal negative digits exponent, Cell.noConfusion⟩

/-- So does any number that is. -/
lemma Cell.hasValue_of_unsignedNumber? {negative : Bool} {chars : List Char} {cell : Cell}
    (h : unsignedNumber? negative chars = some cell) : cell.HasValue := by
  simp only [unsignedNumber?] at h
  -- with a point or without, either nothing is left behind the digits or an exponent
  split at h
  all_goals
    dsimp only at h
    split at h
    · cases h
    · split at h
      · split_ifs at h
        all_goals
          obtain rfl := Option.some.inj h
          first
            | exact hasValue_ofDecimal ..
            | exact ⟨trivial, Cell.noConfusion⟩
      · split at h
        · obtain ⟨power, -, rfl⟩ := Option.map_eq_some_iff.mp h
          exact hasValue_ofDecimal ..
        · cases h

lemma Cell.HasValue.asNumber {cell : Cell} (h : cell.HasValue) : cell.asNumber.HasValue := by
  cases cell with
  | text shown =>
      rw [Cell.asNumber]
      cases hnumber : number? shown with
      | none => exact ⟨trivial, Cell.noConfusion⟩
      | some number =>
          rw [number?] at hnumber
          split at hnumber <;> exact hasValue_of_unsignedNumber? hnumber
  | null | int | real | blob => exact h

lemma Cell.HasValue.asText {cell : Cell} (h : cell.HasValue) : cell.asText.HasValue := by
  cases cell with
  | int | real => exact ⟨trivial, Cell.noConfusion⟩
  | null | text | blob => exact h

/-- What a parameter is compared as holds something if the parameter does. -/
lemma comparand_hasValue (type : ColumnType) {parameter : Cell} (h : parameter.HasValue) :
    (comparand type parameter).HasValue := by
  rw [comparand]
  split
  · exact h.asNumber
  · exact h.asText

/-- Cells that hold something are in an order. -/
lemma Cell.HasValue.exists_order {a b : Cell} (ha : a.HasValue) (hb : b.HasValue) :
    ∃ order, a.order? b = some order :=
  ⟨rank a b, order?_eq_rank ha.1 hb.1 ha.2 hb.2⟩

/-- Beside a cell that holds something, exactly one of less, equal, greater and empty is true of a stored
cell, and the other comparisons are true where one of two of these is. -/
lemma Comparison.holds_partition {a b : Cell} (ha : a.IsStored) (hb : b.HasValue) :
    [less.holds a b, equal.holds a b, greater.holds a b, a == .null].count true = 1 ∧
      lessOrEqual.holds a b = (less.holds a b || equal.holds a b) ∧
      greaterOrEqual.holds a b = (greater.holds a b || equal.holds a b) ∧
      notEqual.holds a b = (less.holds a b || greater.holds a b) := by
  by_cases hempty : a = .null
  · subst hempty
    exact ⟨rfl, rfl, rfl, rfl⟩
  · obtain ⟨order, horder⟩ := Cell.HasValue.exists_order ⟨ha, hempty⟩ hb
    have hfull : (a == .null) = false := beq_false_of_ne hempty
    simp only [holds, horder, Option.elim_some, hfull]
    cases order <;> decide

end Sql

/-! ## Verdicts -/

/-- What an operator says of a cell of a column, if it can take the value. -/
def Operator.verdict (operator : Operator) (column : Column) (value : Value) (ignoreCase : Bool)
    (cell : Cell) : Except OperandFault Bool :=
  (operator.predicate column value ignoreCase).map (Predicate.holdsOn column.type cell)

/-- A value that is neither absent nor a truth value. -/
def Value.IsComparable (value : Value) : Prop :=
  value ≠ .null ∧ ∀ truth, value ≠ .bool truth

section Verdicts

variable {column : Column} {value falsy truthy : Value} {ignoreCase : Bool} {cell bound : Cell}

/-- A comparison by order says what the comparison of the cells says. -/
lemma ordering_eq_ok (comparison : Comparison) (h : value.IsComparable) :
    ordering column comparison value = .ok (.compare column comparison value) := by
  cases value with
  | null => exact absurd rfl h.1
  | bool truth => exact absurd rfl (h.2 truth)
  | _ => rfl

/-- So does equality, or its negation. -/
lemma equality_eq_compare (isNegated : Bool) (h : value.IsComparable) :
    equality column isNegated value =
      .compare column (if isNegated then .notEqual else .equal) value := by
  cases value with
  | null => exact absurd rfl h.1
  | bool truth => exact absurd rfl (h.2 truth)
  | _ => rfl

/-- The comparison that an operator makes, if it makes one. -/
def Operator.comparison? : Operator → Option Comparison
  | .equalTo => some .equal
  | .notEqualTo => some .notEqual
  | .greaterThan => some .greater
  | .greaterThanOrEqualTo => some .greaterOrEqual
  | .lessThan => some .less
  | .lessThanOrEqualTo => some .lessOrEqual
  | .contains => none
  | .present => none

/-- An operator that compares says what its comparison says. -/
lemma Operator.verdict_of_comparison? {operator : Operator} {comparison : Comparison}
    (hcomparison : operator.comparison? = some comparison) (hvalue : value.IsComparable)
    (hbound : Binding.cell? column.type value = .ok bound) :
    operator.verdict column value ignoreCase cell =
      .ok (comparison.holds cell (comparand column.type bound)) := by
  have hcell : Binding.cell column.type value = bound := by
    rw [Binding.cell, hbound]
  have hpredicate : operator.predicate column value ignoreCase =
      .ok (.compare column comparison value) := by
    cases operator <;> cases hcomparison
    case equalTo | notEqualTo =>
        rw [Operator.predicate, equality_eq_compare _ hvalue]
        rfl
    all_goals exact ordering_eq_ok _ hvalue
  rw [Operator.verdict, hpredicate, ← hcell]
  rfl

/-- Presence asks whether a cell is empty. -/
lemma verdict_present (column : Column) (value : Value) (ignoreCase : Bool) (cell : Cell) :
    Operator.present.verdict column value ignoreCase cell =
      .ok ((cell == .null) != value.isTruthy) := rfl

/-- **A partition.**  Of every stored cell, empty ones included, exactly one of less, equal, greater
and empty is said, whatever the column and the value, as long as a comparison can take the value and
the database stores it as something.  The other comparisons say what two of these say together.  With
an absent value, equality and its negation say whether the cell is empty. -/
theorem verdicts_partition (hvalue : value.IsComparable)
    (hbound : Binding.cell? column.type value = .ok bound) (hsomething : bound ≠ .null)
    (hcell : cell.IsStored) (hfalsy : falsy.isTruthy = false) (htruthy : truthy.isTruthy = true) :
    ∃ less equal greater empty : Bool,
      Operator.lessThan.verdict column value ignoreCase cell = .ok less ∧
      Operator.equalTo.verdict column value ignoreCase cell = .ok equal ∧
      Operator.greaterThan.verdict column value ignoreCase cell = .ok greater ∧
      Operator.present.verdict column falsy ignoreCase cell = .ok empty ∧
      [less, equal, greater, empty].count true = 1 ∧ (empty = true ↔ cell = .null) ∧
      Operator.lessThanOrEqualTo.verdict column value ignoreCase cell = .ok (less || equal) ∧
      Operator.greaterThanOrEqualTo.verdict column value ignoreCase cell =
        .ok (greater || equal) ∧
      Operator.notEqualTo.verdict column value ignoreCase cell = .ok (less || greater) ∧
      Operator.equalTo.verdict column .null ignoreCase cell = .ok empty ∧
      Operator.notEqualTo.verdict column .null ignoreCase cell = .ok !empty ∧
      Operator.present.verdict column truthy ignoreCase cell = .ok !empty := by
  have hstored : bound.IsStored := by
    obtain ⟨sent, -, hsent⟩ := cell?_eq_ok.mp hbound
    exact Cell.isStored_of_store hsent
  have hverdict : ∀ (operator : Operator) (comparison : Comparison),
      operator.comparison? = some comparison →
        operator.verdict column value ignoreCase cell =
          .ok (comparison.holds cell (comparand column.type bound)) :=
    fun _ _ hcomparison => Operator.verdict_of_comparison? hcomparison hvalue hbound
  obtain ⟨hone, hlessOrEqual, hgreaterOrEqual, hnotEqual⟩ :=
    Comparison.holds_partition hcell (comparand_hasValue column.type ⟨hstored, hsomething⟩)
  refine ⟨_, _, _, cell == .null, hverdict .lessThan .less rfl, hverdict .equalTo .equal rfl,
    hverdict .greaterThan .greater rfl, ?_, hone, beq_iff_eq, ?_, ?_, ?_, ?_, ?_, ?_⟩
  · rw [verdict_present, hfalsy, Bool.bne_false]
  · rw [hverdict .lessThanOrEqualTo .lessOrEqual rfl, hlessOrEqual]
  · rw [hverdict .greaterThanOrEqualTo .greaterOrEqual rfl, hgreaterOrEqual]
  · rw [hverdict .notEqualTo .notEqual rfl, hnotEqual]
  · exact congrArg Except.ok (Bool.bne_false (cell == .null))
  · exact congrArg Except.ok (Bool.bne_true (cell == .null))
  · rw [verdict_present, htruthy, Bool.bne_true]

end Verdicts

/-- A whole number that no fraction is equal to, beside the number with a fraction that is nearest. -/
theorem verdicts_partition_large :
    ∃ less equal greater empty : Bool,
      Operator.lessThan.verdict (Sample.column "price" .float) (.int 9007199254740993) true
        (.real ⟨0x4340000000000000⟩) = .ok less ∧
      Operator.equalTo.verdict (Sample.column "price" .float) (.int 9007199254740993) true
        (.real ⟨0x4340000000000000⟩) = .ok equal ∧
      Operator.greaterThan.verdict (Sample.column "price" .float) (.int 9007199254740993) true
        (.real ⟨0x4340000000000000⟩) = .ok greater ∧
      Operator.present.verdict (Sample.column "price" .float) (.str "") true
        (.real ⟨0x4340000000000000⟩) = .ok empty ∧
      [less, equal, greater, empty].count true = 1 := by
  have hvalue : (Value.int 9007199254740993).IsComparable :=
    ⟨Value.noConfusion, fun _ => Value.noConfusion⟩
  have hbound : Binding.cell? (Sample.column "price" .float).type (.int 9007199254740993) =
      .ok (.int 9007199254740993) := by decide
  have hcell : (Cell.real ⟨0x4340000000000000⟩).IsStored := by decide
  have hfalsy : (Value.str "").isTruthy = false := by decide
  have htruthy : (Value.bool true).isTruthy = true := rfl
  obtain ⟨less, equal, greater, empty, hless, hequal, hgreater, hempty, hone, -⟩ :=
    verdicts_partition hvalue hbound Cell.noConfusion hcell hfalsy htruthy
  exact ⟨less, equal, greater, empty, hless, hequal, hgreater, hempty, hone⟩

end FilterQuery
