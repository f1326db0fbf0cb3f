import Mathlib.Algebra.Order.Ring.Rat
import Mathlib.Order.Compare
import Mathlib.Tactic.Common
import FilterQuery.Sql.Ordering

/-!
# Sorted rows

Rows come back in the order of their sort keys.  That this is an order at all rests on the cells: a
not-a-number is in no order with anything, and is not stored.

**Cells.**  `Cell.rank` puts all cells in one order, and `Cell.order?_eq_rank` says that it is the
order of the database wherever both cells are stored and neither is empty.

**Sort keys.**  `SortKey.rank` and `SortKey.rankAll` carry the order over to keys and to lists of
keys, on stored cells the order that rows are sorted by (`SortKey.orderAll_eq_rankAll`).

**Sorting.**  `sortBy_pairwise`: sorted rows are in the order of the keys.
-/

namespace FilterQuery

open Std (OrientedCmp ReflCmp TransCmp)

/-! ## Cells -/

lemma Double.compareRat_eq_compare (a b : Rat) : Double.compareRat a b = compare a b := by
  rw [LinearOrder.compare_eq_compareOfLessAndEq]
  rfl

namespace Sql

namespace Cell

/-- A cell as the database keeps it: a not-a-number is stored as nothing. -/
def IsStored : Cell → Prop
  | .real number => number.isNaN = false
  | _ => True

instance (cell : Cell) : Decidable cell.IsStored := by
  simp only [IsStored]
  split <;> infer_instance

/-- Whatever a parameter is stored in. -/
lemma isStored_of_store {value : Value} {cell : Cell} (h : Binding.store value = .ok cell) :
    cell.IsStored := by
  cases value <;> simp only [Binding.store] at h
  case float number =>
      obtain rfl := Except.ok.inj h
      cases hnumber : number.isNaN with
      | true => trivial
      | false => simpa [IsStored] using hnumber
  case int number =>
      split at h <;> cases h
      trivial
  all_goals cases h <;> trivial

/-- The kinds of cells in their order. -/
def kind : Cell → Nat
  | .null => 0
  | .int _ => 1
  | .real _ => 1
  | .text _ => 2
  | .blob _ => 3

/-- On which side of all finite numbers a cell is; zero for those that are on neither. -/
def side : Cell → Int
  | .real number => if number.isInfinite then (if number.isNegative then -1 else 1) else 0
  | _ => 0

/-- The exact value of a finite number. -/
def value : Cell → Rat
  | .int number => number
  | .real number => if number.isInfinite then 0 else number.toRat
  | _ => 0

/-- The text of a cell. -/
def letters : Cell → String
  | .text shown => shown
  | _ => ""

/-- The bytes of a cell. -/
def octets : Cell → List UInt8
  | .blob bytes => bytes
  | _ => []

/-- One order of all cells: by kind, then by what tells cells of a kind apart. -/
def rank : Cell → Cell → Ordering :=
  compareLex (compareOn kind) <| compareLex (compareOn side) <| compareLex (compareOn value) <|
    compareLex (compareOn letters) (compareOn octets)

instance : TransCmp rank := by
  rw [rank]
  infer_instance

/-- What is compared first decides, unless it is equal. -/
lemma rank_eq (a b : Cell) :
    rank a b = (compare a.kind b.kind).then ((compare a.side b.side).then
      ((compare a.value b.value).then ((compare a.letters b.letters).then
        (compare a.octets b.octets)))) := rfl

lemma orderText_eq_compare (a b : String) : orderText a b = compare a b := rfl

lemma orderBytes_eq_compare (a b : List UInt8) : orderBytes a b = compare a b := by
  induction a generalizing b with
  | nil => cases b <;> rfl
  | cons x xs ih =>
      cases b with
      | nil => rfl
      | cons y ys =>
          have hcompare : compare x y = compareOfLessAndEq x y := rfl
          rw [orderBytes, ih, List.compare_cons_cons, hcompare, compareOfLessAndEq]
          by_cases hlt : x < y
          · simp [hlt]
          · by_cases heq : x = y
            · simp [heq]
            · have hgt : y < x := by grind
              simp [hlt, heq, hgt]

/-- Whole numbers are in the order of their values. -/
lemma compare_intCast (a b : Int) : compare (a : Rat) (b : Rat) = compare a b := by
  rcases lt_trichotomy a b with hlt | rfl | hgt
  · rw [compare_lt_iff_lt.mpr hlt, compare_lt_iff_lt.mpr (by exact_mod_cast hlt)]
  · simp
  · rw [compare_gt_iff_gt.mpr hgt, compare_gt_iff_gt.mpr (by exact_mod_cast hgt)]

/-- What is below all finite numbers is before them, and before what is above them. -/
lemma compare_sides : compare (-1 : Int) 0 = .lt ∧ compare (0 : Int) (-1) = .gt ∧
    compare (1 : Int) 0 = .gt ∧ compare (0 : Int) 1 = .lt ∧ compare (-1 : Int) 1 = .lt ∧
    compare (1 : Int) (-1) = .gt := by
  decide

/-- A number with a fraction and a whole number are in the one order. -/
lemma orderInt?_eq_rank {number : Double} (hnumber : number.isNaN = false) (whole : Int) :
    number.orderInt? whole = some (rank (.real number) (.int whole)) := by
  simp only [Double.orderInt?, hnumber, Double.compareRat_eq_compare, rank_eq, kind, side, value,
    letters, octets]
  by_cases hinfinite : number.isInfinite <;> by_cases hnegative : number.isNegative <;>
    simp [hinfinite, hnegative, compare_sides]

/-- So are two numbers with a fraction. -/
lemma order?_real_eq_rank {a b : Double} (ha : a.isNaN = false) (hb : b.isNaN = false) :
    a.order? b = some (rank (.real a) (.real b)) := by
  simp only [Double.order?, ha, hb, Double.compareRat_eq_compare, rank_eq, kind, side, value,
    letters, octets]
  by_cases hinfinite : b.isInfinite <;> by_cases hinfinite' : a.isInfinite <;>
    by_cases hnegative : b.isNegative <;> by_cases hnegative' : a.isNegative <;>
    simp [hinfinite, hinfinite', hnegative, hnegative', compare_sides]

/-- **One order.**  Stored cells that are not empty are in the order of their ranks. -/
theorem order?_eq_rank {a b : Cell} (ha : a.IsStored) (hb : b.IsStored) (ha' : a ≠ .null)
    (hb' : b ≠ .null) : a.order? b = some (rank a b) := by
  cases a with
  | null => exact absurd rfl ha'
  | int number =>
      cases b with
      | null => exact absurd rfl hb'
      | int other => simp [order?, rank_eq, kind, side, value, letters, octets, compare_intCast]
      | real other =>
          rw [order?, orderInt?_eq_rank hb, Option.map_some, ← OrientedCmp.eq_swap]
      | text other => rfl
      | blob other => rfl
  | real number =>
      cases b with
      | null => exact absurd rfl hb'
      | int other => exact orderInt?_eq_rank ha other
      | real other => exact order?_real_eq_rank ha hb
      | text other => rfl
      | blob other => rfl
  | text shown =>
      cases b with
      | null => exact absurd rfl hb'
      | text other => simp [order?, rank_eq, kind, side, value, octets, letters, orderText_eq_compare]
      | _ => rfl
  | blob bytes =>
      cases b with
      | null => exact absurd rfl hb'
      | blob other => simp [order?, rank_eq, kind, side, value, letters, octets, orderBytes_eq_compare]
      | _ => rfl

/-- Cells that are equal are stored, and neither is empty. -/
lemma isStored_of_equal? {a b : Cell} (h : a.equal? b = some true) :
    (a ≠ .null ∧ a.IsStored) ∧ b ≠ .null ∧ b.IsStored := by
  have hnumber : ∀ number : Double, ¬(Cell.real number).IsStored → number.isNaN = true := by
    simp [IsStored]
  constructor
  · cases a with
    | null => simp [equal?, order?] at h
    | real number =>
        refine ⟨Cell.noConfusion, ?_⟩
        by_contra hnan
        cases b <;>
          simp [equal?, order?, Double.orderInt?, Double.order?, hnumber number hnan] at h
    | _ => exact ⟨Cell.noConfusion, trivial⟩
  · cases b with
    | null => cases a <;> simp [equal?, order?] at h
    | real number =>
        refine ⟨Cell.noConfusion, ?_⟩
        by_contra hnan
        cases a <;>
          simp [equal?, order?, Double.orderInt?, Double.order?, hnumber number hnan] at h
    | _ => exact ⟨Cell.noConfusion, trivial⟩

/-- Cells are equal where the order does not tell them apart. -/
lemma equal?_iff {a b : Cell} : a.equal? b = some true ↔
    ((a ≠ .null ∧ a.IsStored) ∧ b ≠ .null ∧ b.IsStored) ∧ rank a b = .eq := by
  constructor
  · intro h
    obtain ⟨⟨ha, ha'⟩, hb, hb'⟩ := isStored_of_equal? h
    rw [equal?, order?_eq_rank ha' hb' ha hb] at h
    exact ⟨⟨⟨ha, ha'⟩, hb, hb'⟩, by simpa using h⟩
  · rintro ⟨⟨⟨ha, ha'⟩, hb, hb'⟩, h⟩
    rw [equal?, order?_eq_rank ha' hb' ha hb, h]
    rfl

/-- Cells that are equal to the same cell are equal. -/
lemma equal?_of_equal? {a b c : Cell} (ha : a.equal? c = some true) (hb : b.equal? c = some true) :
    a.equal? b = some true := by
  rw [equal?_iff] at ha hb ⊢
  have hswap : rank c b = (rank b c).swap := OrientedCmp.eq_swap
  rw [hb.2] at hswap
  exact ⟨⟨ha.1.1, hb.1.1⟩, TransCmp.eq_trans ha.2 hswap⟩

end Cell

/-- The tables hold nothing but cells as they are stored. -/
def Database.IsStored (database : Database) : Prop :=
  ∀ entry ∈ database.tables, ∀ row ∈ entry.2, ∀ held ∈ row, held.2.IsStored

/-- What is looked up is there. -/
lemma mem_of_lookup {κ α : Type} [BEq κ] [LawfulBEq κ] {entries : List (κ × α)} {key : κ}
    {value : α} (h : entries.lookup key = some value) : (key, value) ∈ entries := by
  obtain ⟨before, after, rfl, -⟩ := List.lookup_eq_some_iff.mp h
  simp

/-- A cell of a row that is stored, whether or not the row has the column. -/
lemma Database.IsStored.cell {database : Database} (h : database.IsStored) {table : String}
    {row : Row} (hrow : row ∈ database.rows table) (name : String) : (row.cell name).IsStored := by
  rw [Database.rows] at hrow
  cases htable : database.tables.lookup table with
  | none => simp [htable] at hrow
  | some rows =>
      rw [htable, Option.getD_some] at hrow
      rw [Row.cell]
      cases hcell : List.lookup name row with
      | none => trivial
      | some cell =>
          exact h _ (mem_of_lookup htable) _ hrow _ (mem_of_lookup hcell)

/-! ## Sort keys -/

namespace SortKey

/-- On which side of the others a key has a cell because that is empty or not. -/
def half (key : SortKey) (cell : Cell) : Nat :=
  if (cell == .null) = key.emptyFirst.getD !key.isDescending then 0 else 1

/-- The order of cells in the direction of a key. -/
def directed (key : SortKey) (a b : Cell) : Ordering :=
  if key.isDescending then Cell.rank b a else Cell.rank a b

instance (key : SortKey) : TransCmp key.directed := by
  unfold directed
  cases key.isDescending with
  | false => exact inferInstanceAs (TransCmp Cell.rank)
  | true => exact inferInstanceAs (TransCmp fun a b => Cell.rank b a)

/-- One order of all cells by a key. -/
def rank (key : SortKey) : Cell → Cell → Ordering :=
  compareLex (compareOn key.half) key.directed

instance (key : SortKey) : TransCmp key.rank :=
  inferInstanceAs (TransCmp (compareLex (compareOn key.half) key.directed))

lemma rank_eq (key : SortKey) (a b : Cell) :
    key.rank a b = (compare (key.half a) (key.half b)).then (key.directed a b) := rfl

/-- A key has stored cells in one order. -/
lemma order_eq_rank (key : SortKey) {a b : Cell} (ha : a.IsStored) (hb : b.IsStored) :
    key.order a b = key.rank a b := by
  have hempty : key.half .null = if key.emptyFirst.getD !key.isDescending then 0 else 1 := by
    cases hfirst : key.emptyFirst.getD !key.isDescending <;> simp [half, hfirst]
  have hfull : ∀ cell : Cell, cell ≠ .null →
      key.half cell = if key.emptyFirst.getD !key.isDescending then 1 else 0 := by
    intro cell hcell
    cases hfirst : key.emptyFirst.getD !key.isDescending <;>
      simp [half, hfirst, beq_false_of_ne hcell]
  rw [rank_eq]
  by_cases ha' : a = .null <;> by_cases hb' : b = .null
  · subst ha' hb'
    have htie : key.directed .null .null = .eq := ReflCmp.compare_self
    rw [Nat.compare_eq_eq.mpr rfl, htie]
    rfl
  · subst ha'
    have horder : key.order .null b =
        if key.emptyFirst.getD !key.isDescending then .lt else .gt := by
      cases b <;> first | rfl | contradiction
    rw [horder, hempty, hfull b hb']
    split <;> rfl
  · subst hb'
    have horder : key.order a .null =
        (if key.emptyFirst.getD !key.isDescending then Ordering.lt else .gt).swap := by
      cases a <;> first | rfl | contradiction
    rw [horder, hempty, hfull a ha']
    split <;> rfl
  · have horder : key.order a b = if key.isDescending then ((a.order? b).getD .eq).swap
        else (a.order? b).getD .eq := by
      cases a <;> cases b <;> first | rfl | contradiction
    rw [horder, Cell.order?_eq_rank ha hb ha' hb', hfull a ha', hfull b hb',
      Nat.compare_eq_eq.mpr rfl, directed, Option.getD_some, ← OrientedCmp.eq_swap]
    rfl

/-- One order of all assignments by keys. -/
def rankAll : List SortKey → Assignment → Assignment → Ordering
  | [] => fun _ _ => .eq
  | key :: rest =>
    compareLex (fun a b => key.rank (a.cell key.place) (b.cell key.place)) (rankAll rest)

/-- The order of the cells that things have. -/
lemma transCmp_on {α β : Type} (cmp : β → β → Ordering) [TransCmp cmp] (f : α → β) :
    TransCmp fun a b => cmp (f a) (f b) where
  eq_swap := OrientedCmp.eq_swap
  isLE_trans := TransCmp.isLE_trans

instance (keys : List SortKey) : TransCmp (rankAll keys) := by
  induction keys with
  | nil => exact { eq_swap := rfl, isLE_trans := fun h _ => h }
  | cons key rest ih =>
      have hkey := transCmp_on key.rank fun assignment : Assignment => assignment.cell key.place
      exact inferInstanceAs (TransCmp (compareLex _ _))

lemma rankAll_cons (key : SortKey) (rest : List SortKey) (a b : Assignment) :
    rankAll (key :: rest) a b =
      (key.rank (a.cell key.place) (b.cell key.place)).then (rankAll rest a b) := rfl

/-- Assignments whose keys are stored are in one order. -/
lemma orderAll_eq_rankAll {keys : List SortKey} {a b : Assignment}
    (ha : ∀ key ∈ keys, (a.cell key.place).IsStored)
    (hb : ∀ key ∈ keys, (b.cell key.place).IsStored) : orderAll keys a b = rankAll keys a b := by
  induction keys with
  | nil => rfl
  | cons key rest ih =>
      rw [List.forall_mem_cons] at ha hb
      rw [orderAll, rankAll_cons, ih ha.2 hb.2, order_eq_rank key ha.1 hb.1]

/-- An assignment ties with itself. -/
lemma orderAll_self {keys : List SortKey} {a : Assignment}
    (ha : ∀ key ∈ keys, (a.cell key.place).IsStored) : orderAll keys a a = .eq := by
  rw [orderAll_eq_rankAll ha ha]
  exact ReflCmp.compare_self

/-- The keys in front decide first. -/
lemma orderAll_append (keys more : List SortKey) (a b : Assignment) :
    orderAll (keys ++ more) a b = (orderAll keys a b).then (orderAll more a b) := by
  induction keys with
  | nil => rfl
  | cons key rest ih => rw [List.cons_append, orderAll, orderAll, ih, Ordering.then_assoc]

/-- Only the cells at the places of the keys count. -/
lemma orderAll_congr {keys : List SortKey} {a b a' b' : Assignment}
    (ha : ∀ key ∈ keys, a.cell key.place = a'.cell key.place)
    (hb : ∀ key ∈ keys, b.cell key.place = b'.cell key.place) :
    orderAll keys a b = orderAll keys a' b' := by
  induction keys with
  | nil => rfl
  | cons key rest ih =>
      rw [List.forall_mem_cons] at ha hb
      rw [orderAll, orderAll, ha.1, hb.1, ih ha.2 hb.2]

end SortKey

/-! ## Sorting -/

lemma sortBy_perm (keys : List SortKey) (assignments : List Assignment) :
    (sortBy keys assignments).Perm assignments := by
  rw [sortBy]
  split
  · exact List.Perm.refl _
  · exact List.mergeSort_perm _ _

/-- **Sorting.**  Sorted rows are in the order of the keys. -/
theorem sortBy_pairwise {keys : List SortKey} {assignments : List Assignment}
    (h : ∀ assignment ∈ assignments, ∀ key ∈ keys,
      (Assignment.cell assignment key.place).IsStored) :
    (sortBy keys assignments).Pairwise fun a b => SortKey.orderAll keys a b ≠ .gt := by
  by_cases hkeys : keys = []
  · subst hkeys
    exact List.pairwise_of_forall fun _ _ => by simp [SortKey.orderAll]
  · have hrank : ∀ a ∈ assignments, ∀ b ∈ assignments,
        SortKey.orderAll keys a b = SortKey.rankAll keys a b :=
      fun a ha b hb => SortKey.orderAll_eq_rankAll (h a ha) (h b hb)
    -- sorting asks for an order of all assignments, so the ranks are sorted by instead
    have hsame : sortBy keys assignments =
        assignments.mergeSort fun a b => (SortKey.rankAll keys a b).isLE := by
      have hle : ∀ a ∈ assignments, ∀ b ∈ assignments,
          (SortKey.orderAll keys a b != .gt) = (SortKey.rankAll keys a b).isLE := by
        intro a ha b hb
        rw [hrank a ha b hb]
        cases SortKey.rankAll keys a b <;> rfl
      have hmap : (assignments.mergeSort fun a b => SortKey.orderAll keys a b != .gt).map id =
          (assignments.map id).mergeSort fun a b => (SortKey.rankAll keys a b).isLE :=
        List.map_mergeSort hle
      rw [List.map_id, List.map_id] at hmap
      rw [sortBy, if_neg (by simpa using hkeys), hmap]
    have htotal : ∀ a b, ((SortKey.rankAll keys a b).isLE || (SortKey.rankAll keys b a).isLE) := by
      intro a b
      have hswap : SortKey.rankAll keys b a = (SortKey.rankAll keys a b).swap :=
        OrientedCmp.eq_swap
      rw [hswap]
      cases SortKey.rankAll keys a b <;> rfl
    have hsorted := List.pairwise_mergeSort (fun _ _ _ => TransCmp.isLE_trans) htotal assignments
    rw [← hsame] at hsorted
    refine hsorted.imp_of_mem fun {a b} ha hb hle => ?_
    have hperm := sortBy_perm keys assignments
    rw [hrank a (hperm.mem_iff.mp ha) b (hperm.mem_iff.mp hb)]
    exact Ordering.isLE_iff_ne_gt.mp hle

end Sql

end FilterQuery
