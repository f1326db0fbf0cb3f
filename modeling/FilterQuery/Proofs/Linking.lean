import Mathlib.Data.List.Induction
import Mathlib.Data.List.Nodup
import Mathlib.Data.List.Pairwise
import Mathlib.Tactic.Common
import FilterQuery.Children

/-!
# Linked children

Children are linked to their parents one by one, each under the attribute that refers to the parent.
A child that stands under several parents is linked to each of them in turn.

**One child.**  `Session.attach_eq_ok`: an attribute that holds one thing (`TakesOne`) takes any parent,
and nothing else changes.

**All children.**  `Session.linkAll` is what is held in the end, and `linkLoaded_eq_ok` says that
linking loaded families does not fail and leads there.

**What a child holds.**  `Session.held?_linkAll`: the last parent under which it stands, or what it
held before; `Session.held?_of_nodup` for children that stand under one parent.

**What nobody loses.**  What one link leaves true, all do (`Session.linkAll_keeps`): other attributes hold
what they held, and no record comes to have changes to be saved.
-/

namespace FilterQuery

open FilterQuery.Sql

/-- An attribute of an entity holds one thing: it is a single relationship, or a column. -/
def Entity.HoldsOne (entity : Entity) (name : String) : Prop :=
  match entity.relationship? name with
  | some relationship => relationship.isMany = false
  | none => (entity.column? name).isSome = true

/-- A record has an entity whose attribute of a name holds one thing. -/
def TakesOne (schema : Schema) (name : String) (child : RecordId) : Prop :=
  ∃ entity, schema.entity? child.entity = some entity ∧ entity.HoldsOne name

namespace Session

/-- The session in which a child holds a parent. -/
def hold (session : Session) (child : RecordId) (name : String) (parent : RecordId) : Session :=
  { session with held := Entries.put session.held (child, name) (.record parent) }

/-- The session in which the children of a parent hold it. -/
def link (name : String) (session : Session) (family : RecordId × List RecordId) : Session :=
  family.2.foldl (fun session child => session.hold child name family.1) session

/-- The session in which all children hold their parents. -/
def linkAll (name : String) (session : Session) (families : List (RecordId × List RecordId)) :
    Session :=
  families.foldl (link name) session

lemma linkAll_concat (name : String) (session : Session)
    (families : List (RecordId × List RecordId)) (last : RecordId × List RecordId) :
    session.linkAll name (families ++ [last]) = link name (session.linkAll name families) last := by
  rw [linkAll, List.foldl_append]
  rfl

/-! ## One child -/

section Child

variable (session : Session) {child other parent : RecordId} {name field : String}

lemma held?_hold_self : (session.hold child name parent).held? child name = some (.record parent) :=
  Entries.lookup_put_self _ _ _

lemma held?_hold_of_ne (h : (other, field) ≠ (child, name)) :
    (session.hold child name parent).held? other field = session.held? other field :=
  Entries.lookup_put_of_ne _ _ h

/-- What holds one thing takes any parent. -/
lemma heldFor_eq_ok {entity : Entity} (h : entity.HoldsOne name) (parent : RecordId) :
    heldFor entity name (some parent) = .ok (.record parent) := by
  rw [Entity.HoldsOne] at h
  cases hrelationship : entity.relationship? name with
  | some relationship =>
      rw [hrelationship] at h
      simp only [heldFor, hrelationship, h]
  | none =>
      rw [hrelationship] at h
      obtain ⟨column, hcolumn⟩ := Option.isSome_iff_exists.mp h
      simp only [heldFor, hrelationship, hcolumn, Option.elim]

lemma attach_eq_ok {schema : Schema} (h : TakesOne schema name child) (parent : RecordId) :
    session.attach schema child name (some parent) = .ok (session.hold child name parent) := by
  obtain ⟨entity, hentity, hone⟩ := h
  simp only [attach, hentity, heldFor_eq_ok hone]
  rfl

end Child

/-! ## What a child holds -/

/-- The children of a parent hold it, and nobody else holds anything new. -/
lemma held?_link (name : String) (session : Session) (family : RecordId × List RecordId)
    (child : RecordId) :
    (link name session family).held? child name =
      if child ∈ family.2 then some (.record family.1) else session.held? child name := by
  obtain ⟨parent, children⟩ := family
  simp only [link]
  induction children using List.reverseRecOn with
  | nil => simp
  | append_singleton before last ih =>
      rw [List.foldl_append, List.foldl_cons, List.foldl_nil]
      by_cases hlast : child = last
      · subst hlast
        rw [held?_hold_self, if_pos (by simp)]
      · rw [held?_hold_of_ne _ fun h => hlast (Prod.mk.inj h).1, ih]
        simp [hlast]

/-- **What a child holds.**  The last parent under which it stands, if there is one. -/
theorem held?_linkAll (name : String) (session : Session)
    (families : List (RecordId × List RecordId)) (child : RecordId) :
    (session.linkAll name families).held? child name =
      match (families.filter fun family => child ∈ family.2).getLast? with
      | some family => some (.record family.1)
      | none => session.held? child name := by
  induction families using List.reverseRecOn with
  | nil => rfl
  | append_singleton before last ih =>
      rw [linkAll_concat, held?_link, List.filter_append]
      by_cases hlast : child ∈ last.2
      · simp [hlast]
      · simp [hlast, ih]

/-- What one child's parent leaves true, all parents do: by induction on the parents, and on the
children of each. -/
lemma linkAll_keeps {name : String} {P : Session → Prop}
    (hhold : ∀ session child parent, P session → P (session.hold child name parent))
    {session : Session} (h : P session) (families : List (RecordId × List RecordId)) :
    P (session.linkAll name families) := by
  have hlink (family : RecordId × List RecordId) {session : Session} (h : P session) :
      P (link name session family) := by
    rw [link]
    induction family.2 generalizing session with
    | nil => exact h
    | cons child rest ih => exact ih (hhold session child family.1 h)
  induction families generalizing session with
  | nil => exact h
  | cons family rest ih => exact ih (hlink family h)

/-- Other attributes hold what they held. -/
lemma held?_linkAll_of_ne {name field : String} (h : field ≠ name) (session : Session)
    (families : List (RecordId × List RecordId)) (id : RecordId) :
    (session.linkAll name families).held? id field = session.held? id field :=
  linkAll_keeps (P := fun after => after.held? id field = session.held? id field)
    (fun _ _ _ hbefore => (held?_hold_of_ne _ fun hsame => h (Prod.mk.inj hsame).2).trans hbefore)
    rfl families

/-- Linking leaves no changes to be saved. -/
lemma dirty_linkAll (name : String) (session : Session)
    (families : List (RecordId × List RecordId)) :
    (session.linkAll name families).dirty = session.dirty :=
  linkAll_keeps (P := fun after => after.dirty = session.dirty) (fun _ _ _ hbefore => hbefore)
    rfl families

/-- A child that stands under one parent holds that parent. -/
lemma held?_of_nodup (name : String) (session : Session)
    {families : List (RecordId × List RecordId)} (hnodup : (families.flatMap Prod.snd).Nodup)
    {family : RecordId × List RecordId} (hfamily : family ∈ families) {child : RecordId}
    (hchild : child ∈ family.2) :
    (session.linkAll name families).held? child name = some (.record family.1) := by
  have hmem : family ∈ families.filter fun family => child ∈ family.2 :=
    List.mem_filter.mpr ⟨hfamily, by simpa using hchild⟩
  obtain ⟨last, hlast⟩ := Option.isSome_iff_exists.mp
    (List.getLast?_isSome.mpr (List.ne_nil_of_mem hmem))
  obtain ⟨hlastmem, hlastchild⟩ := List.mem_filter.mp (List.mem_of_getLast? hlast)
  have hsame : last = family := by
    by_contra hne
    have hpairwise : families.Pairwise fun one other => List.Disjoint one.2 other.2 :=
      (List.nodup_flatMap.mp hnodup).2
    have hsymm : Std.Symm fun one other : RecordId × List RecordId =>
        List.Disjoint one.2 other.2 := ⟨fun _ _ h _ hone hother => h hother hone⟩
    have hdisjoint := hpairwise.forall hlastmem hfamily hne
    exact hdisjoint (by simpa using hlastchild) hchild
  rw [held?_linkAll, hlast, hsame]

end Session

/-! ## All children -/

section Families

variable {schema : Schema} {name : String}

/-- A record has an entity whose attribute of a name refers to one record. -/
def RefersToOne (schema : Schema) (name : String) (child : RecordId) : Prop :=
  ∃ target inverse, schema.entity? child.entity = some target ∧
    target.relationship? name = some inverse ∧ inverse.isMany = false

lemma RefersToOne.takesOne {child : RecordId} (h : RefersToOne schema name child) :
    TakesOne schema name child := by
  obtain ⟨target, inverse, htarget, hinverse, hsingle⟩ := h
  exact ⟨target, htarget, by rwa [Entity.HoldsOne, hinverse]⟩

lemma linkFamily_eq_ok (session : Session) (parent : RecordId) {children : List RecordId}
    (h : ∀ child ∈ children, TakesOne schema name child) :
    linkFamily schema name session parent children =
      .ok (Session.link name session (parent, children)) := by
  induction children generalizing session with
  | nil => rfl
  | cons child rest ih =>
      rw [List.forall_mem_cons] at h
      rw [linkFamily, List.foldlM_cons, Session.adopt_eq_attach, session.attach_eq_ok h.1 parent]
      exact ih _ h.2

/-- **All children** of loaded parents are linked, where each of them refers to one parent. -/
theorem linkLoaded_eq_ok (association : String) {families : List (RecordId × List RecordId)}
    (h : ∀ family ∈ families, ∀ child ∈ family.2, RefersToOne schema name child) :
    linkLoaded schema (families.map fun family => ⟨.record family.1, family.2⟩) association name =
      .ok ⟨families, Session.empty.linkAll name families⟩ := by
  induction families using List.reverseRecOn with
  | nil => rfl
  | append_singleton before last ih =>
      rw [List.forall_mem_append, List.forall_mem_singleton] at h
      have hbefore := ih h.1
      have hlast := linkFamily_eq_ok (Session.empty.linkAll name before) last.1
        fun child hchild => (h.2 child hchild).takesOne
      rw [linkLoaded] at hbefore ⊢
      rw [List.map_append, List.foldlM_append, hbefore, Session.linkAll_concat]
      simp only [List.map_cons, List.map_nil, List.foldlM_cons, List.foldlM_nil, Linked.add, hlast,
        bind, Except.bind, pure, Except.pure]

end Families

end FilterQuery
