import Mathlib.Tactic.Common
import FilterQuery.Failure
import FilterQuery.Proofs.QueryChildren

/-!
# The attribute of the parent

Which attribute children are linked by, and when it is one that refers to the parent.

**Choosing.**  The attribute is looked up among the relationships of the child, and nothing else is
asked of it.  `refersBack_parentAttribute_iff`: what comes out is an attribute that refers to the
parent, or a fault of the configuration, exactly if the name that is chosen suits: it can be looked up,
and a relationship that goes by it is a single one that leads to the parent.

**Linking.**  Whatever is held after children were linked has been attached, one child after the other:
`attach_preserves` for one step, `linkFamily_preserves` and `linkLoaded_preserves` for runs.  A
collection takes no single record, so no child holds its parent in one (`held_of_queryChildren`); but a
single attribute takes any record.

**The attribute of the parent.**  `refersBack_iff_suits` says both, and `not_refersBack_of_chosen` that a
declared inverse and a given name need not suit.
-/

namespace FilterQuery

open FilterQuery.Sql

/-! ## Choosing -/

/-- A relationship is a single one, and leads to the entity. -/
def Relationship.RefersTo (back : Relationship) (parent : Entity) : Prop :=
  back.isMany = false ∧ back.target = parent.name

instance (back : Relationship) (parent : Entity) : Decidable (back.RefersTo parent) :=
  inferInstanceAs (Decidable (_ ∧ _))

/-- What comes out is an attribute that refers to the parent, or a fault of the configuration. -/
def RefersBack (child parent : Entity) : Except InverseFault String → Prop
  | .ok backward => ∃ back, child.relationship? backward = some back ∧ back.RefersTo parent
  | .error fault => fault.report.kind = "ConfigurationError"

/-- The name that is chosen, if there is one, can be looked up, and the relationship of the child that
goes by it refers to the parent. -/
def Inverse.Suits (inverse : Inverse) (parent : Entity) (given : Value) : Prop :=
  (inverse.name given).isTruthy = true → (inverse.name given).unhashable? = none ∧
    ∀ back, (inverse.name given).text?.bind inverse.child.relationship? = some back →
      back.RefersTo parent

section Choosing

variable {inverse : Inverse} {parent : Entity} {given : Value} {backward : String}

/-- A relationship is found by its name. -/
lemma relationship?_name {entity : Entity} {name : String} {back : Relationship}
    (h : entity.relationship? name = some back) : entity.relationship? back.name = some back := by
  have hname : back.name = name := by simpa using List.find?_some h
  rwa [hname]

/-- The attribute is the name of a relationship of the child. -/
lemma exists_back_of_parentAttribute (h : parentAttribute inverse given = .ok backward) :
    ∃ back, inverse.child.relationship? backward = some back ∧
      (inverse.name given).isTruthy = true ∧
      (inverse.name given).text?.bind inverse.child.relationship? = some back := by
  simp only [parentAttribute] at h
  split at h
  · cases h
  · rename_i htruthy
    split at h
    · cases h
    · rename_i back _ hback
      obtain rfl := Except.ok.inj h
      obtain ⟨name, -, hname⟩ := Option.bind_eq_some_iff.mp hback
      exact ⟨back, relationship?_name hname, by simpa using htruthy, hback⟩
    · cases h

/-- What comes out is right exactly if the chosen name suits. -/
lemma refersBack_parentAttribute_iff (inverse : Inverse) (parent : Entity) (given : Value) :
    RefersBack inverse.child parent (parentAttribute inverse given) ↔
      inverse.Suits parent given := by
  rw [Inverse.Suits]
  cases htruthy : (inverse.name given).isTruthy with
  | false => simp [parentAttribute, htruthy, RefersBack, InverseFault.report]
  | true =>
      cases hkey : (inverse.name given).unhashable? with
      | some type =>
          simp [parentAttribute, htruthy, hkey, RefersBack, InverseFault.report, Report.plain]
      | none =>
          cases hback : (inverse.name given).text?.bind inverse.child.relationship? with
          | none =>
              simp [parentAttribute, htruthy, hkey, hback, RefersBack, InverseFault.report]
          | some back =>
              obtain ⟨name, -, hname⟩ := Option.bind_eq_some_iff.mp hback
              simp [parentAttribute, htruthy, hkey, hback, RefersBack, relationship?_name hname]

end Choosing

/-! ## Linking -/

/-- What was put under a key is there, and otherwise only what was there. -/
lemma Entries.mem_put {κ α : Type} [BEq κ] [LawfulBEq κ] {entries : Entries κ α} {key : κ}
    {value : α} {entry : κ × α} (h : entry ∈ entries.put key value) :
    entry ∈ entries ∨ entry = (key, value) := by
  induction entries with
  | nil => exact .inr (List.mem_singleton.mp h)
  | cons first rest ih =>
      obtain ⟨known, old⟩ := first
      rw [put] at h
      split at h
      · rename_i hsame
        rcases List.mem_cons.mp h with rfl | hrest
        · exact .inr (by rw [eq_of_beq hsame])
        · exact .inl (List.mem_cons_of_mem _ hrest)
      · rcases List.mem_cons.mp h with rfl | hrest
        · exact .inl List.mem_cons_self
        · exact (ih hrest).imp_left (List.mem_cons_of_mem _)

/-- What every step of a run keeps holds at its end, by induction on the steps. -/
lemma foldlM_preserves {α β ε : Type} {step : β → α → Except ε β} {P : β → Prop} {items : List α}
    {start last : β}
    (hstep : ∀ item ∈ items, ∀ before after, P before → step before item = .ok after → P after)
    (hstart : P start) (h : items.foldlM step start = .ok last) : P last := by
  induction items generalizing start with
  | nil =>
      obtain rfl := Except.ok.inj h
      exact hstart
  | cons item rest ih =>
      rw [List.forall_mem_cons] at hstep
      rw [List.foldlM_cons] at h
      obtain ⟨after, hafter, hrest⟩ := bind_eq_ok.mp h
      exact ih hstep.2 (hstep.1 _ after hstart hafter) hrest

/-- A child of a family holds under the attribute what that holds when it is set to its parent. -/
def HoldsParent (schema : Schema) (backward : String) (families : List Family)
    (entry : (RecordId × String) × Held) : Prop :=
  ∃ family ∈ families, ∃ parent entity, family.parent = .record parent ∧
    entry.1.1 ∈ family.children ∧ entry.1.2 = backward ∧
    schema.entity? entry.1.1.entity = some entity ∧
    Session.heldFor entity backward (some parent) = .ok entry.2

section Linking

variable {schema : Schema} {backward : String} {families all : List Family}
  {session next : Session} {P : (RecordId × String) × Held → Prop}

/-- One child: what is held then was held before, or is what the attribute holds when it is set. -/
lemma attach_preserves {child : RecordId} {parent : Option RecordId}
    (hattach : session.attach schema child backward parent = .ok next)
    (hnew : ∀ entity held, schema.entity? child.entity = some entity →
      Session.heldFor entity backward parent = .ok held → P ((child, backward), held))
    (hsession : ∀ entry ∈ session.held, P entry) : ∀ entry ∈ next.held, P entry := by
  simp only [Session.attach] at hattach
  split at hattach
  · cases hattach
  · rename_i entity hentity
    obtain ⟨held, hheld, hnext⟩ := bind_eq_ok.mp hattach
    obtain rfl := Except.ok.inj hnext
    intro entry hentry
    rcases Entries.mem_put hentry with hold | rfl
    · exact hsession entry hold
    · exact hnew entity held hentity hheld

/-- The children of one parent. -/
lemma linkFamily_preserves {parent : RecordId} {children : List RecordId}
    (hlink : linkFamily schema backward session parent children = .ok next)
    (hnew : ∀ child ∈ children, ∀ entity held, schema.entity? child.entity = some entity →
      Session.heldFor entity backward (some parent) = .ok held → P ((child, backward), held))
    (hsession : ∀ entry ∈ session.held, P entry) : ∀ entry ∈ next.held, P entry := by
  refine @foldlM_preserves _ _ _ _ (fun session : Session => ∀ entry ∈ session.held, P entry)
    children _ _ (fun child hchild before after hbefore hadopt => ?_) hsession hlink
  rw [Session.adopt_eq_attach] at hadopt
  exact attach_preserves hadopt (hnew child hchild) hbefore

/-- **All families**: nothing is held but parents, each by a child of its family. -/
lemma linkLoaded_preserves {association : String} {linked : Linked}
    (hlink : linkLoaded schema families association backward = .ok linked) :
    ∀ entry ∈ linked.session.held, HoldsParent schema backward families entry := by
  refine @foldlM_preserves _ _ _ _
    (fun linked : Linked => ∀ entry ∈ linked.session.held, HoldsParent schema backward families entry)
    families _ _ ?_ (fun _ hentry => absurd hentry List.not_mem_nil) hlink
  intro family hfamily before after hbefore hadd
  cases hparent : family.parent with
  | cell type cell => simp [hparent] at hadd
  | record parent =>
      simp only [hparent, Linked.add] at hadd
      obtain ⟨session, hsession, hadded⟩ := bind_eq_ok.mp hadd
      obtain rfl := Except.ok.inj hadded
      refine linkFamily_preserves hsession ?_ hbefore
      intro child hchild entity held hentity hheld
      exact ⟨family, hfamily, parent, entity, hparent, hchild, rfl, hentity, hheld⟩

end Linking

/-! ## Fetched children -/

section Fetched

variable {database : Database} {settings : Settings} {association : String} {base : Statement}
  {options given : Value} {configure : Configure} {eager : Eager} {fetched : Fetched}

/-- The children of loaded families are records of the target. -/
lemma entity_of_mem_familiesOf {statement : Statement} {loaded : List Assignment} {family : Family}
    {child : RecordId} (hfamily : family ∈ familiesOf statement eager loaded)
    (hchild : child ∈ family.children) : child.entity = eager.target.name := by
  rw [familiesOf] at hfamily
  obtain ⟨head, -, rfl⟩ := List.mem_map.mp hfamily
  obtain ⟨assignment, -, rfl⟩ := List.mem_map.mp (mem_unique.mp hchild)
  rfl

/-- The relationship that leads to the children is the one of that name. -/
lemma childRelationship_eq_ok {root : Root} {parent entity : Entity}
    {relationship found : Relationship} (hroot : root = .entity parent)
    (hfound : parent.relationship? association = some relationship)
    (h : childRelationship root association = .ok (entity, found)) :
    entity = parent ∧ found = relationship := by
  simp only [childRelationship, hroot, collectionOf, hfound] at h
  split at h <;> cases h
  exact ⟨rfl, rfl⟩

/-- What fetching children that does not fail has gone through: the attribute was chosen, families were
loaded, and all of them linked. -/
lemma queryChildren_eq_ok (hroot : base.root = .entity eager.parent)
    (hfound : eager.parent.relationship? association = some eager.relationship)
    (htarget : database.schema.target? eager.relationship = some eager.target)
    (h : (queryChildren database settings association base options configure given).1 =
      .ok fetched) :
    parentAttribute (.ofRelationship eager.parent eager.relationship eager.target) given =
        .ok fetched.backward ∧
      ∃ statement loaded, linkLoaded database.schema (familiesOf statement eager loaded) association
        fetched.backward = .ok fetched.linked := by
  unfold queryChildren at h
  dsimp only at h
  split at h
  · cases h
  rename_i chosen backward hprepared
  obtain ⟨⟨entity, relationship⟩, hchild, hprepared⟩ := bind_eq_ok.mp hprepared
  obtain ⟨rfl, rfl⟩ := childRelationship_eq_ok hroot hfound (mapError_eq_ok.mp hchild)
  rw [htarget] at hprepared
  obtain ⟨name, hname, hprepared⟩ := bind_eq_ok.mp hprepared
  obtain ⟨rfl, rfl⟩ := Prod.mk.inj (Except.ok.inj hprepared)
  split at h
  · cases h
  rename_i statement _
  split at h
  · cases h
  rename_i result parents hloaded
  obtain ⟨_, -, hloaded⟩ := bind_eq_ok.mp hloaded
  obtain ⟨families, hfamilies, hloaded⟩ := bind_eq_ok.mp hloaded
  obtain ⟨linked, hlinked, hloaded⟩ := bind_eq_ok.mp hloaded
  obtain ⟨loaded, -, rfl⟩ := Option.map_eq_some_iff.mp
    (withParameters_eq_ok.mp (mapError_eq_ok.mp hfamilies)).2
  cases hloaded
  cases h
  exact ⟨mapError_eq_ok.mp hname, statement, loaded, mapError_eq_ok.mp hlinked⟩

/-- What is held once children are fetched: parents, by records of the target, under a single attribute
of theirs. -/
lemma held_of_queryChildren (hroot : base.root = .entity eager.parent)
    (hfound : eager.parent.relationship? association = some eager.relationship)
    (htarget : database.schema.target? eager.relationship = some eager.target)
    (h : (queryChildren database settings association base options configure given).1 =
      .ok fetched) :
    ∀ entry ∈ fetched.linked.session.held, ∃ back parent,
      eager.target.relationship? entry.1.2 = some back ∧ back.isMany = false ∧
      entry.1.1.entity = eager.target.name ∧ entry.1.2 = fetched.backward ∧
      entry.2 = .record parent := by
  obtain ⟨hbackward, statement, loaded, hlinked⟩ := queryChildren_eq_ok hroot hfound htarget h
  obtain ⟨back, hback, -, -⟩ := exists_back_of_parentAttribute hbackward
  intro entry hentry
  obtain ⟨family, hfamily, parent, entity, -, hchild, hname, hentity, hheld⟩ :=
    linkLoaded_preserves hlinked entry hentry
  have hrecord := entity_of_mem_familiesOf hfamily hchild
  -- the entity of the record is the target, since entities are found by their names
  have hsame : eager.target.name = eager.relationship.target := by
    simpa using List.find?_some htarget
  obtain rfl : entity = eager.target := by
    rw [hrecord, hsame] at hentity
    exact Option.some.inj (hentity.symm.trans htarget)
  have hback' : eager.target.relationship? fetched.backward = some back := hback
  cases hmany : back.isMany with
  | true => simp [Session.heldFor, hback', hmany] at hheld
  | false =>
      simp only [Session.heldFor, hback', hmany, Except.ok.injEq] at hheld
      exact ⟨back, parent, by rw [hname, hback'], hmany, hrecord, hname, hheld.symm⟩

/-- **The attribute of the parent.**  Whatever is declared and given, what comes out is an attribute that
refers to the parent, or a fault of the configuration, exactly if the name that is chosen can be looked
up and a relationship that goes by it is a single one and leads to the parent.  When children are
fetched, each holds its parent under a single attribute, and that leads to the parent exactly in the
same case. -/
theorem refersBack_iff_suits (hroot : base.root = .entity eager.parent)
    (hfound : eager.parent.relationship? association = some eager.relationship)
    (htarget : database.schema.target? eager.relationship = some eager.target) :
    (∀ inverse : Inverse, inverse.child = eager.target → ∀ given,
      RefersBack eager.target eager.parent (parentAttribute inverse given) ↔
        inverse.Suits eager.parent given) ∧
    ∀ fetched,
      (queryChildren database settings association base options configure given).1 = .ok fetched →
      ∀ entry ∈ fetched.linked.session.held, ∃ back parent,
        eager.target.relationship? entry.1.2 = some back ∧ back.isMany = false ∧
        entry.1.1.entity = eager.target.name ∧ entry.2 = .record parent ∧
        (back.target = eager.parent.name ↔
          (Inverse.ofRelationship eager.parent eager.relationship eager.target).Suits eager.parent
            given) := by
  constructor
  · rintro inverse hchild given
    rw [← hchild]
    exact refersBack_parentAttribute_iff inverse eager.parent given
  · intro fetched hfetched entry hentry
    obtain ⟨back, parent, hback, hmany, hchild, hname, hheld⟩ :=
      held_of_queryChildren hroot hfound htarget hfetched entry hentry
    refine ⟨back, parent, hback, hmany, hchild, hheld, ?_⟩
    obtain ⟨hbackward, -⟩ := queryChildren_eq_ok hroot hfound htarget hfetched
    have hsuits := refersBack_parentAttribute_iff
      (.ofRelationship eager.parent eager.relationship eager.target) eager.parent given
    rw [← hsuits, hbackward, ← hname]
    constructor
    · exact fun hparent => ⟨back, hback, hmany, hparent⟩
    · rintro ⟨found, hfound, -, hparent⟩
      obtain rfl := Option.some.inj (hfound.symm.trans hback)
      exact hparent

end Fetched

namespace Sample

/-- Products with their labels, of which each can be on several products. -/
def labelsOfProduct : Eager :=
  ⟨product, ⟨"labels", "Label", true,
    .through "product_labels" [("region", "product_region"), ("num", "product_num")]
      [("id", "label_id")], [("id", false)], some "products"⟩, label⟩

/-- The way back from comments. -/
def commentsInverse : Inverse :=
  .ofRelationship postComments.parent postComments.relationship postComments.target

end Sample

/-- The attribute that is declared suits the comments of a post; that of their author does not, and
nothing but posts is held there once they are fetched. -/
theorem refersBack_iff_suits_comments :
    (RefersBack Sample.comment Sample.post (parentAttribute Sample.commentsInverse .null) ↔
      Sample.commentsInverse.Suits Sample.post .null) ∧
    ∀ fetched, (queryChildren Sample.database .default "comments" Sample.allPosts .null
        (.value .null) (.str "author")).1 = .ok fetched →
      ∀ entry ∈ fetched.linked.session.held, ∃ back parent,
        Sample.comment.relationship? entry.1.2 = some back ∧ back.isMany = false ∧
        entry.1.1.entity = "Comment" ∧ entry.2 = .record parent ∧
        (back.target = "Post" ↔ Sample.commentsInverse.Suits Sample.post (.str "author")) := by
  have hfound : Sample.post.relationship? "comments" =
      some Sample.postComments.relationship := by decide
  have htarget : Sample.database.schema.target? Sample.postComments.relationship =
      some Sample.postComments.target := by decide
  obtain ⟨hchosen, hheld⟩ := @refersBack_iff_suits Sample.database .default "comments"
    Sample.allPosts .null (.str "author") (.value .null) Sample.postComments rfl hfound htarget
  exact ⟨hchosen Sample.commentsInverse rfl .null, hheld⟩

/-- Labels are on several products, and so the inverse that is declared for them is a collection.  A
comment has an author, who is not the post that it belongs to; but if that is the name that is given,
nothing keeps a comment from holding the post there. -/
theorem not_refersBack_of_chosen :
    ¬RefersBack Sample.label Sample.product (parentAttribute (.ofRelationship
      Sample.product Sample.labelsOfProduct.relationship Sample.label) .null) ∧
    ¬RefersBack Sample.comment Sample.post
      (parentAttribute Sample.commentsInverse (.str "author")) ∧
    Session.empty.attach Sample.schema ⟨"Comment", [.int 1]⟩ "author"
        (some ⟨"Post", [.int 1]⟩) =
      .ok ⟨[((⟨"Comment", [.int 1]⟩, "author"), .record ⟨"Post", [.int 1]⟩)], []⟩ := by
  refine ⟨?_, ?_, rfl⟩
  · rintro ⟨back, hback, hsingle, -⟩
    cases hback
    cases hsingle
  · rintro ⟨back, hback, -, htarget⟩
    cases hback
    exact absurd htarget (by decide)

end FilterQuery
