import Mathlib.Data.List.Induction
import FilterQuery.Proofs.JoinedRows
import FilterQuery.Proofs.Present

/-!
# What a subquery joins

A build enters relationships one by one; a prefix that was entered before keeps its alias.  This
file is about the joins that come out of it, and not about the build.

**Structure.**  `Joined` is the relation between tracked prefixes, joins and the number of the next
alias that entering relationships makes: one case for nothing joined yet, one for a prefix that is
entered for the first time.  `Joined.exists_number` and `Joined.reach` read off it that aliases have
numbers of their own and stand for the entities that their prefixes lead to.

**Meaning.**  `Follows` is when rows given to prefixes are related along a relationship.  The
assignments that the joins let through are the ways to give related rows to all tracked prefixes:
`Joined.follows_of_mem_chain` and `Joined.exists_mem_chain`.  Both go by induction on `Joined`; the
new aliases are apart from all old ones, so a row that was given stays.
-/

namespace FilterQuery

open FilterQuery.Sql

/-! ## Structure -/

/-- The alias under which a prefix stands; the empty prefix stands under the root's. -/
def aliasAt? (root : Alias) (tracker : JoinTracker Alias) (path : FieldPath) : Option Alias :=
  if path = [] then some root else tracker.alias? path

@[simp]
lemma aliasAt?_nil (root : Alias) (tracker : JoinTracker Alias) :
    aliasAt? root tracker [] = some root := rfl

@[simp]
lemma aliasAt?_concat (root : Alias) (tracker : JoinTracker Alias) (behind : FieldPath)
    (segment : String) :
    aliasAt? root tracker (behind ++ [segment]) = tracker.alias? (behind ++ [segment]) := by
  simp [aliasAt?]

/-- Where nothing is tracked, only the root stands anywhere. -/
lemma eq_root_of_aliasAt? {root known : Alias} {path : FieldPath}
    (h : aliasAt? root [] path = some known) : path = [] ∧ root = known := by
  by_cases hp : path = []
  · subst hp
    exact ⟨rfl, by simpa using h⟩
  · simp [aliasAt?, hp, JoinTracker.alias?] at h

/-- The occurrence of the table of pairs that a newly entered relationship gets. -/
def linkOf (linkage : Linkage) (fresh : Nat) : Source :=
  match linkTable? linkage with
  | some table => ⟨table, .related fresh⟩
  | none => .ofTable ""

/-- The number of the alias that a newly entered relationship leads to: the next one, or the one
behind the table of pairs. -/
def numberOf (linkage : Linkage) (fresh : Nat) : Nat :=
  match linkTable? linkage with
  | some _ => fresh + 1
  | none => fresh

/-- The alias that a newly entered relationship leads to. -/
def entered (linkage : Linkage) (target : Entity) (fresh : Nat) : Alias :=
  ⟨⟨target.table, .related (numberOf linkage fresh)⟩, target⟩

lemma le_numberOf (linkage : Linkage) (fresh : Nat) : fresh ≤ numberOf linkage fresh := by
  cases linkage <;> simp [numberOf, linkTable?]

/-- Tracked prefixes, joins and the number of the next alias, as entering relationships makes
them. -/
inductive Joined (schema : Schema) (root : Alias) : JoinTracker Alias → List Join → Nat → Prop
  /-- Only the root stands there. -/
  | start {number fresh : Nat} (hrole : root.source.role = .related number)
      (hlt : number < fresh) : Joined schema root [] [] fresh
  /-- A prefix is entered for the first time. -/
  | enter {tracker : JoinTracker Alias} {joins : List Join} {fresh : Nat} {behind : FieldPath}
      {segment : String} {holder : Alias} {relationship : Relationship} {target : Entity}
      (before : Joined schema root tracker joins fresh)
      (hholder : aliasAt? root tracker behind = some holder)
      (hnew : tracker.alias? (behind ++ [segment]) = none)
      (hstep : schema.step? holder.entity segment = some (relationship, target)) :
      Joined schema root
        (tracker.add (behind ++ [segment]) (entered relationship.linkage target fresh))
        (joins ++ linkageJoins relationship.linkage holder.source
          (linkOf relationship.linkage fresh) (entered relationship.linkage target fresh).source)
        (numberOf relationship.linkage fresh + 1)

/-- The prefixes that are found after one more was entered. -/
lemma aliasAt?_add {root known : Alias} {tracker : JoinTracker Alias} {behind path : FieldPath}
    {segment : String} :
    aliasAt? root (tracker.add (behind ++ [segment]) known) path =
      if path = behind ++ [segment] then some known else aliasAt? root tracker path := by
  by_cases hp : path = behind ++ [segment]
  · rw [if_pos hp, hp, aliasAt?_concat]
    exact JoinTracker.alias?_add_self ..
  · rw [if_neg hp, aliasAt?, aliasAt?, JoinTracker.alias?_add_of_ne _ _ hp]

namespace Joined

variable {schema : Schema} {root : Alias} {tracker : JoinTracker Alias} {joins : List Join}
  {fresh : Nat}

/-- Every alias has a number, and the next one is greater. -/
lemma exists_number (h : Joined schema root tracker joins fresh) :
    ∀ {path : FieldPath} {known : Alias}, aliasAt? root tracker path = some known →
      ∃ number, known.source.role = .related number ∧ number < fresh := by
  induction h with
  | @start number fresh hrole hlt =>
      intro path known hknown
      obtain ⟨rfl, rfl⟩ := eq_root_of_aliasAt? hknown
      exact ⟨number, hrole, hlt⟩
  | @enter tracker joins fresh behind segment holder relationship target before hholder hnew hstep ih =>
      intro path known hknown
      have hle := le_numberOf relationship.linkage fresh
      rw [aliasAt?_add] at hknown
      split_ifs at hknown with hp
      · obtain rfl := Option.some.inj hknown
        exact ⟨_, rfl, Nat.lt_succ_self _⟩
      · obtain ⟨number, hrole, hlt⟩ := ih hknown
        exact ⟨number, hrole, by omega⟩

/-- An alias that is there is none of the sources that the next relationship adds. -/
lemma ne_entered (h : Joined schema root tracker joins fresh) {path : FieldPath} {known : Alias}
    (hknown : aliasAt? root tracker path = some known) (linkage : Linkage) (target : Entity) :
    known.source ≠ (entered linkage target fresh).source ∧
      known.source ≠ linkOf linkage fresh := by
  obtain ⟨number, hrole, hlt⟩ := h.exists_number hknown
  have hle := le_numberOf linkage fresh
  constructor
  · intro e
    rw [e] at hrole
    have hnumber : numberOf linkage fresh = number := by simpa [entered] using hrole
    omega
  · intro e
    rw [e] at hrole
    cases linkage <;> simp [linkOf, linkTable?, Source.ofTable] at hrole
    omega

/-- The sources that the next relationship adds are as joining along it wants them. -/
lemma entering (h : Joined schema root tracker joins fresh) {path : FieldPath} {holder : Alias}
    (hholder : aliasAt? root tracker path = some holder) (linkage : Linkage) (target : Entity) :
    Source.Entering holder.source (linkOf linkage fresh) (entered linkage target fresh).source
      linkage where
  holder_ne_target := (h.ne_entered hholder linkage target).1
  holder_ne_link := (h.ne_entered hholder linkage target).2
  link_ne_target := by
    cases linkage <;> simp [linkOf, entered, numberOf, linkTable?, Source.ofTable]
  link_table := by
    intro table htable
    simp [linkOf, htable]

/-- An alias that is there is not joined again. -/
lemma not_mem_targets (h : Joined schema root tracker joins fresh) {path : FieldPath}
    {known : Alias} (hknown : aliasAt? root tracker path = some known) (holder : Source)
    (linkage : Linkage) (target : Entity) :
    known.source ∉ (linkageJoins linkage holder (linkOf linkage fresh)
      (entered linkage target fresh).source).map Join.target := by
  intro hmem
  obtain ⟨join, hjoin, htarget⟩ := List.mem_map.mp hmem
  obtain ⟨hne, hlink⟩ := h.ne_entered hknown linkage target
  rcases target_of_mem_linkageJoins hjoin with e | ⟨e, -⟩
  · exact hne (htarget.symm.trans e)
  · exact hlink (htarget.symm.trans e)

/-- An alias stands for the entity that its prefix leads to. -/
lemma reach (h : Joined schema root tracker joins fresh) :
    ∀ {path : FieldPath} {known : Alias}, aliasAt? root tracker path = some known →
      schema.reach root.entity path = .ok known.entity := by
  induction h with
  | start hrole hlt =>
      intro path known hknown
      obtain ⟨rfl, rfl⟩ := eq_root_of_aliasAt? hknown
      rfl
  | enter before hholder hnew hstep ih =>
      intro path known hknown
      rw [aliasAt?_add] at hknown
      split_ifs at hknown with hp
      · obtain rfl := Option.some.inj hknown
        rw [hp, Schema.reach_concat_eq_ok]
        exact ⟨_, _, ih hholder, hstep⟩
      · exact ih hknown

/-- Aliases are among the joined sources. -/
lemma mem_joinSources (h : Joined schema root tracker joins fresh) :
    ∀ {path : FieldPath} {known : Alias}, aliasAt? root tracker path = some known →
      known.source ∈ joinSources root.source joins := by
  induction h with
  | start hrole hlt =>
      intro path known hknown
      obtain ⟨rfl, rfl⟩ := eq_root_of_aliasAt? hknown
      simp [joinSources]
  | @enter tracker joins fresh behind segment holder relationship target before hholder hnew hstep ih =>
      intro path known hknown
      rw [aliasAt?_add] at hknown
      split_ifs at hknown with hp
      · obtain rfl := Option.some.inj hknown
        cases relationship.linkage <;> simp [joinSources, linkageJoins]
      · have hmem := ih hknown
        simp only [joinSources, List.map_append, List.mem_cons, List.mem_append] at hmem ⊢
        tauto

/-- Only aliases are joined, and the number of the next one is greater than theirs. -/
lemma role_of_mem_joins (h : Joined schema root tracker joins fresh) :
    ∀ join ∈ joins, ∃ number, join.target.role = .related number ∧ number < fresh := by
  induction h with
  | start hrole hlt => intro join hjoin; cases hjoin
  | @enter tracker joins fresh behind segment holder relationship target before hholder hnew hstep ih =>
      have hle := le_numberOf relationship.linkage fresh
      intro join hjoin
      rcases List.mem_append.mp hjoin with hjoin | hjoin
      · obtain ⟨number, hrole, hlt⟩ := ih join hjoin
        exact ⟨number, hrole, by omega⟩
      · rcases target_of_mem_linkageJoins hjoin with htarget | ⟨htarget, table, htable⟩
        · exact ⟨_, by rw [htarget]; rfl, Nat.lt_succ_self _⟩
        · exact ⟨fresh, by rw [htarget, linkOf, htable], by omega⟩

/-- A tracked prefix has the one before it tracked too, or is the first segment. -/
lemma isSome_behind (h : Joined schema root tracker joins fresh) :
    ∀ {behind : FieldPath} {segment : String}, (tracker.alias? (behind ++ [segment])).isSome →
      ∃ holder, aliasAt? root tracker behind = some holder := by
  induction h with
  | start hrole hlt => intro behind segment hsome; simp [JoinTracker.alias?] at hsome
  | @enter tracker joins fresh behind' segment' holder relationship target before hholder hnew hstep ih =>
      intro behind segment hsome
      rw [← aliasAt?_concat root, aliasAt?_add] at hsome
      rw [aliasAt?_add]
      split_ifs with hp
      · exact ⟨_, rfl⟩
      · split_ifs at hsome with hq
        · obtain ⟨rfl, -⟩ := List.append_inj' hq rfl
          exact ⟨holder, hholder⟩
        · rw [aliasAt?_concat] at hsome
          exact ih hsome

/-- All prefixes of a tracked prefix are tracked. -/
lemma exists_of_prefix (h : Joined schema root tracker joins fresh) :
    ∀ {path other : FieldPath} {known : Alias}, aliasAt? root tracker path = some known →
      other <+: path → ∃ above, aliasAt? root tracker other = some above := by
  intro path
  induction path using List.reverseRecOn with
  | nil =>
      intro other known hknown hsub
      rw [List.prefix_nil.mp hsub]
      exact ⟨root, aliasAt?_nil root tracker⟩
  | append_singleton behind segment ih =>
      intro other known hknown hsub
      rcases List.prefix_concat_iff.mp hsub with rfl | hsub
      · exact ⟨known, hknown⟩
      · rw [aliasAt?_concat] at hknown
        obtain ⟨holder, hholder⟩ := h.isSome_behind (by rw [hknown]; rfl)
        exact ih hholder hsub

end Joined

/-! ## Meaning

A way through the joins gives a row to each tracked prefix.  The converse needs rows for all
prefixes at once, for the row of a longer prefix is joined to that of a shorter one; `Follows`
relates the two.
-/

/-- The row of a prefix and one more segment is related, along that segment, to the row of the
prefix. -/
def Follows (database : Database) (entity : Entity) (rows : FieldPath → Row) (behind : FieldPath)
    (segment : String) : Prop :=
  ∃ holder relationship target, database.schema.reach entity behind = .ok holder ∧
    database.schema.step? holder segment = some (relationship, target) ∧
    rows (behind ++ [segment]) ∈ database.rows target.table ∧
    relationship.linkage.Relates database (rows behind) (rows (behind ++ [segment]))

/-- The rows that an assignment gives to prefixes, by their aliases. -/
def rowsAt (root : Alias) (tracker : JoinTracker Alias) (inner : Assignment) (path : FieldPath) :
    Row :=
  (aliasAt? root tracker path).elim [] fun known => inner.row known.source

lemma rowsAt_of_alias {root known : Alias} {tracker : JoinTracker Alias} {path : FieldPath}
    (h : aliasAt? root tracker path = some known) (inner : Assignment) :
    rowsAt root tracker inner path = inner.row known.source := by
  rw [rowsAt, h, Option.elim_some]

/-- Whether rows follow each other looks at two of them only. -/
lemma Follows.congr {database : Database} {entity : Entity} {rows other : FieldPath → Row}
    {behind : FieldPath} {segment : String} (h : Follows database entity rows behind segment)
    (hbehind : other behind = rows behind)
    (hnext : other (behind ++ [segment]) = rows (behind ++ [segment])) :
    Follows database entity other behind segment := by
  obtain ⟨holder, relationship, target, hreach, hstep, hmem, hrel⟩ := h
  exact ⟨holder, relationship, target, hreach, hstep, hnext ▸ hmem, by rw [hbehind, hnext]; exact hrel⟩

namespace Joined

variable {database : Database} {root : Alias} {tracker : JoinTracker Alias} {joins : List Join}
  {fresh : Nat} {outer : Assignment}

/-- Outside the aliases the ways through the joins are as the assignment that they start from. -/
lemma lookup_of_mem_chain (h : Joined database.schema root tracker joins fresh)
    {inner : Assignment} (hinner : inner ∈ database.chain [outer] root.source joins)
    {source : Source} (hs : ∀ number, source.role ≠ .related number) :
    List.lookup source inner = List.lookup source outer := by
  induction h generalizing inner with
  | @start number fresh hrole hlt =>
      simp only [Database.chain, List.foldl_nil, mem_extend, List.mem_singleton] at hinner
      obtain ⟨_, rfl, row, hr, rfl⟩ := hinner
      have hne : source ≠ root.source := fun e => hs number (e ▸ hrole)
      rw [List.lookup_cons, beq_false_of_ne hne]
  | @enter tracker joins fresh behind segment holder relationship target before hholder hnew hstep ih =>
      rw [Database.chain, List.foldl_append] at hinner
      obtain ⟨middle, hmiddle, hoff, -, -, -⟩ :=
        relates_of_mem_linkageJoins (before.entering hholder relationship.linkage target) hinner
      have hrole := (before.enter hholder hnew hstep).role_of_mem_joins
      have hnot : source ∉ (linkageJoins relationship.linkage holder.source
          (linkOf relationship.linkage fresh)
          (entered relationship.linkage target fresh).source).map Join.target := by
        intro hmem
        obtain ⟨join, hjoin, rfl⟩ := List.mem_map.mp hmem
        obtain ⟨number, hnumber, -⟩ := hrole join (List.mem_append_right _ hjoin)
        exact hs number hnumber
      rw [hoff source hnot]
      exact ih hmiddle

/-- Every way through the joins gives the root a row of its table. -/
lemma root_mem_of_mem_chain (h : Joined database.schema root tracker joins fresh)
    {inner : Assignment} (hinner : inner ∈ database.chain [outer] root.source joins) :
    inner.row root.source ∈ database.rows root.source.table := by
  induction h generalizing inner with
  | start hrole hlt =>
      simp only [Database.chain, List.foldl_nil, mem_extend, List.mem_singleton] at hinner
      obtain ⟨_, rfl, row, hr, rfl⟩ := hinner
      simpa using hr
  | @enter tracker joins fresh behind segment holder relationship target before hholder hnew hstep ih =>
      rw [Database.chain, List.foldl_append] at hinner
      obtain ⟨middle, hmiddle, hoff, -, -, -⟩ :=
        relates_of_mem_linkageJoins (before.entering hholder relationship.linkage target) hinner
      have hroot : aliasAt? root tracker [] = some root := aliasAt?_nil root tracker
      rw [hoff.row (before.not_mem_targets hroot holder.source relationship.linkage target)]
      exact ih hmiddle

/-- **Soundness of the joins.**  On every way through them the rows of tracked prefixes follow each
other.  The induction is on how the joins came about; what was entered last is related by
`relates_of_mem_linkageJoins`, and all else is as it was before. -/
theorem follows_of_mem_chain (h : Joined database.schema root tracker joins fresh)
    {inner : Assignment} (hinner : inner ∈ database.chain [outer] root.source joins)
    {behind : FieldPath} {segment : String}
    (hsome : (tracker.alias? (behind ++ [segment])).isSome) :
    Follows database root.entity (rowsAt root tracker inner) behind segment := by
  induction h generalizing inner behind segment with
  | start hrole hlt => simp [JoinTracker.alias?] at hsome
  | @enter tracker joins fresh behind' segment' holder relationship target before hholder hnew hstep ih =>
      have hafter := before.enter hholder hnew hstep
      have hinner' := hinner
      rw [Database.chain, List.foldl_append] at hinner
      obtain ⟨middle, hmiddle, hoff, -, hmem, hrel⟩ :=
        relates_of_mem_linkageJoins (before.entering hholder relationship.linkage target) hinner
      -- an alias that was there before has the row that it had
      have hold : ∀ {path : FieldPath} {known : Alias}, aliasAt? root tracker path = some known →
          inner.row known.source = middle.row known.source := fun hknown =>
        hoff.row (before.not_mem_targets hknown holder.source relationship.linkage target)
      have hkeep : ∀ {path : FieldPath} {known : Alias}, aliasAt? root tracker path = some known →
          path ≠ behind' ++ [segment'] →
          rowsAt root (tracker.add (behind' ++ [segment'])
            (entered relationship.linkage target fresh)) inner path = rowsAt root tracker middle path := by
        intro path known hknown hne
        rw [rowsAt_of_alias hknown, ← hold hknown]
        exact rowsAt_of_alias (by rw [aliasAt?_add, if_neg hne, hknown]) inner
      by_cases hp : behind ++ [segment] = behind' ++ [segment']
      · obtain ⟨rfl, hseg⟩ := List.append_inj' hp rfl
        obtain rfl : segment = segment' := by simpa using hseg
        have hne : behind ≠ behind ++ [segment] := by simp
        refine ⟨holder.entity, relationship, target, before.reach hholder, hstep, ?_, ?_⟩
        · rw [rowsAt_of_alias (by rw [aliasAt?_add, if_pos rfl])]
          exact hmem
        · have hnext : aliasAt? root (tracker.add (behind ++ [segment])
              (entered relationship.linkage target fresh)) (behind ++ [segment]) =
                some (entered relationship.linkage target fresh) := by
            rw [aliasAt?_add, if_pos rfl]
          rw [rowsAt_of_alias hnext, hkeep hholder hne, rowsAt_of_alias hholder]
          exact hrel
      · have hsome' : (tracker.alias? (behind ++ [segment])).isSome := by
          rw [← aliasAt?_concat root, aliasAt?_add, if_neg hp, aliasAt?_concat] at hsome
          exact hsome
        obtain ⟨above, habove⟩ := before.isSome_behind hsome'
        obtain ⟨known, hknown⟩ := Option.isSome_iff_exists.mp hsome'
        rw [← aliasAt?_concat root] at hknown
        have hne : behind ≠ behind' ++ [segment'] := by
          rintro rfl
          rw [aliasAt?_concat, hnew] at habove
          cases habove
        exact (ih hmiddle hsome').congr (hkeep habove hne) (hkeep hknown hp)

/-- **Completeness of the joins.**  Rows that follow each other on all tracked prefixes are the rows
of some way through the joins. -/
theorem exists_mem_chain (h : Joined database.schema root tracker joins fresh)
    {rows : FieldPath → Row} (hroot : rows [] ∈ database.rows root.source.table)
    (hfollows : ∀ behind segment, (tracker.alias? (behind ++ [segment])).isSome →
      Follows database root.entity rows behind segment) :
    ∃ inner ∈ database.chain [outer] root.source joins,
      ∀ path known, aliasAt? root tracker path = some known → inner.row known.source = rows path := by
  induction h with
  | start hrole hlt =>
      refine ⟨(root.source, rows []) :: outer, ?_, ?_⟩
      · simp only [Database.chain, List.foldl_nil, mem_extend, List.mem_singleton]
        exact ⟨outer, rfl, _, hroot, rfl⟩
      · intro path known hknown
        obtain ⟨rfl, rfl⟩ := eq_root_of_aliasAt? hknown
        exact Assignment.row_cons_self ..
  | @enter tracker joins fresh behind segment holder relationship target before hholder hnew hstep ih =>
      have hadded : ∀ path, aliasAt? root (tracker.add (behind ++ [segment])
          (entered relationship.linkage target fresh)) path = if path = behind ++ [segment]
            then some (entered relationship.linkage target fresh) else aliasAt? root tracker path :=
        fun _ => aliasAt?_add
      obtain ⟨middle, hmiddle, hrows⟩ := ih (by
        intro behind' segment' hsome
        apply hfollows
        rw [← aliasAt?_concat root, hadded]
        split_ifs with hp
        · rfl
        · rwa [aliasAt?_concat])
      obtain ⟨above, relationship', target', hreach, hstep', hmem, hrel⟩ :=
        hfollows behind segment (by rw [← aliasAt?_concat root, hadded, if_pos rfl]; rfl)
      -- the row to be joined is related as the entered relationship says, for there is only one
      obtain rfl : holder.entity = above := Except.ok.inj ((before.reach hholder).symm.trans hreach)
      obtain ⟨rfl, rfl⟩ : relationship = relationship' ∧ target = target' := by
        simpa using hstep.symm.trans hstep'
      rw [← hrows behind holder hholder] at hrel
      obtain ⟨inner, hinner, hrow, hoff⟩ := exists_mem_linkageJoins
        (before.entering hholder relationship.linkage target) hmiddle hmem hrel
      refine ⟨inner, ?_, ?_⟩
      · rw [Database.chain, List.foldl_append]
        exact hinner
      · intro path known hknown
        rw [hadded] at hknown
        split_ifs at hknown with hp
        · obtain rfl := Option.some.inj hknown
          rw [hp]
          exact hrow
        · rw [hoff.row (before.not_mem_targets hknown holder.source relationship.linkage target)]
          exact hrows path known hknown

end Joined

end FilterQuery
