import Mathlib.Data.List.Induction
import Mathlib.Tactic.Common
import FilterQuery.Proofs.Linking
import FilterQuery.Sample

/-!
# Children gathered in memory

Children are gathered from parents whose collections are loaded, and each is linked to its parent on the
way.  A parent may come again, collections may share children, and parents may be children themselves;
so what is written for one parent could be what is read for the next.

**One parent.**  `Gathered.add_eq_ok`: its collection comes last, and its children hold it.

**What changes.**  `Memory.content?_linkAll_of_or`: nothing but the one attribute of the children.  That
attribute holds one thing, and so it is not a collection of any parent (`HasCollection.ne`).

**All parents.**  `Memory.childrenOf_eq_ok` says where gathering leads, and `childrenOf_loaded` what that
is: a child holds the last parent that has it.
-/

namespace FilterQuery

open FilterQuery.Sql

/-- A record has an entity whose attribute of a name is a collection. -/
def HasCollection (schema : Schema) (name : String) (parent : RecordId) : Prop :=
  ∃ entity relationship, schema.entity? parent.entity = some entity ∧
    entity.relationship? name = some relationship ∧ relationship.isMany = true

/-- A record in memory has these records in its collection of a name. -/
def Memory.Collects (memory : Memory) (name : String) (parent : RecordId)
    (children : List RecordId) : Prop :=
  ∃ content, memory.content? parent name = some content ∧ content.records = .ok children

/-- Of some parents with their collections, the last one that has the child. -/
def IsLastHolder (collection : RecordId → List RecordId) (parents : List RecordId)
    (child parent : RecordId) : Prop :=
  ∃ before after, parents = before ++ parent :: after ∧ child ∈ collection parent ∧
    ∀ later ∈ after, child ∉ collection later

/-- Parents with their collections. -/
def withCollections (collection : RecordId → List RecordId) (parents : List RecordId) :
    List (RecordId × List RecordId) :=
  parents.map fun parent => (parent, collection parent)

/-- The memory in which all children hold their parents. -/
def Memory.linkAll (name : String) (memory : Memory)
    (families : List (RecordId × List RecordId)) : Memory :=
  { memory with session := memory.session.linkAll name families }

/-! ## The last parent -/

section Holders

variable {collection : RecordId → List RecordId} {parents : List RecordId} {child parent : RecordId}

lemma children_withCollections :
    (withCollections collection parents).flatMap Prod.snd = parents.flatMap collection := by
  rw [withCollections, List.flatMap_map]

/-- A child that some parent has, some parent is the last to have. -/
lemma exists_isLastHolder (h : child ∈ parents.flatMap collection) :
    ∃ parent, IsLastHolder collection parents child parent := by
  -- From the last parent, because that one counts if it has the child.
  induction parents using List.reverseRecOn with
  | nil => simp at h
  | append_singleton before last ih =>
      by_cases hlast : child ∈ collection last
      · exact ⟨last, before, [], rfl, hlast, nofun⟩
      · have hbefore : child ∈ before.flatMap collection := by simpa [hlast] using h
        obtain ⟨parent, front, after, hsplit, hparent, hafter⟩ := ih hbefore
        refine ⟨parent, front, after ++ [last], by simp [hsplit], hparent, ?_⟩
        exact List.forall_mem_append.mpr ⟨hafter, List.forall_mem_singleton.mpr hlast⟩

/-- A child holds the last parent that has it. -/
lemma IsLastHolder.held? (h : IsLastHolder collection parents child parent) (name : String)
    (session : Session) :
    (session.linkAll name (withCollections collection parents)).held? child name =
      some (.record parent) := by
  obtain ⟨before, after, rfl, hparent, hafter⟩ := h
  have hnone : (withCollections collection after).filter (fun family => child ∈ family.2) = [] := by
    simpa [withCollections] using hafter
  rw [Session.held?_linkAll, withCollections, List.map_append, List.map_cons, List.filter_append,
    List.filter_cons_of_pos (by simpa using hparent)]
  rw [withCollections] at hnone
  rw [hnone, List.getLast?_concat]

end Holders

/-! ## What changes -/

namespace Memory

variable {memory : Memory} {name field : String} {families : List (RecordId × List RecordId)}
  {id : RecordId}

/-- Nothing but the one attribute of the children changes. -/
lemma content?_linkAll_of_or (h : id ∉ families.flatMap Prod.snd ∨ field ≠ name) :
    (memory.linkAll name families).content? id field = memory.content? id field := by
  have hheld : (memory.session.linkAll name families).held? id field =
      memory.session.held? id field := by
    by_cases hfield : field = name
    · subst hfield
      have hid := h.resolve_right fun hne => hne rfl
      have hnone : families.filter (fun family => id ∈ family.2) = [] := by
        simpa [List.mem_flatMap] using hid
      rw [Session.held?_linkAll, hnone]
      rfl
    · exact Session.held?_linkAll_of_ne hfield memory.session families id
  simp only [content?, linkAll, hheld]

end Memory

/-- A collection is no attribute that holds one thing. -/
lemma HasCollection.ne {schema : Schema} {association backward : String} {id : RecordId}
    (hmany : HasCollection schema association id) (hone : TakesOne schema backward id) :
    association ≠ backward := by
  rintro rfl
  obtain ⟨entity, relationship, hentity, hrelationship, hmany⟩ := hmany
  obtain ⟨found, hfound, hone⟩ := hone
  obtain rfl := Option.some.inj (hentity.symm.trans hfound)
  rw [Entity.HoldsOne, hrelationship] at hone
  exact absurd hmany (by simp [hone])

/-! ## Gathering -/

section Gathering

variable {database : Database} {association backward : String}

/-- **One parent** whose collection is loaded: it comes last, and its children hold it. -/
lemma Gathered.add_eq_ok {gathered : Gathered} {parent : RecordId} {children : List RecordId}
    (hchildren : gathered.memory.Collects association parent children)
    (hone : ∀ child ∈ children, TakesOne database.schema backward child) :
    gathered.add database association backward (some parent) =
      .ok ⟨⟨gathered.linked.families ++ [(parent, children)],
        Session.link backward gathered.linked.session (parent, children)⟩, gathered.loaded⟩ := by
  obtain ⟨content, hcontent, hrecords⟩ := hchildren
  have hread : gathered.memory.read database parent association =
      .ok (content, gathered.loaded) := by
    simp only [Memory.read, hcontent]
    rfl
  have hlinked := linkFamily_eq_ok gathered.linked.session parent hone
  simp only [add, hread, hrecords, Linked.add, hlinked, bind, Except.bind, pure, Except.pure]

variable {memory : Memory} {parents : List RecordId} {collection : RecordId → List RecordId}

/-- **All parents.**  Their collections come one after the other, and nothing is loaded. -/
theorem Memory.childrenOf_eq_ok
    (hloaded : ∀ parent ∈ parents, memory.Collects association parent (collection parent))
    (hmany : ∀ parent ∈ parents, HasCollection database.schema association parent)
    (hone : ∀ parent ∈ parents, ∀ child ∈ collection parent,
      TakesOne database.schema backward child) :
    memory.childrenOf database (parents.map some) association backward =
      .ok ⟨⟨withCollections collection parents,
        memory.session.linkAll backward (withCollections collection parents)⟩, memory.loaded⟩ := by
  induction parents using List.reverseRecOn with
  | nil => rfl
  | append_singleton before last ih =>
      rw [List.forall_mem_append, List.forall_mem_singleton] at hloaded hmany hone
      have hbefore := ih hloaded.1 hmany.1 hone.1
      -- The last parent may be a child of those before it, and still has the collection it had.
      have hkept : last ∉ (withCollections collection before).flatMap Prod.snd ∨
          association ≠ backward := by
        rw [or_iff_not_imp_left, not_not, children_withCollections, List.mem_flatMap]
        rintro ⟨parent, hparent, hchild⟩
        exact hmany.2.ne (hone.1 parent hparent last hchild)
      obtain ⟨content, hcontent, hrecords⟩ := hloaded.2
      have hlast := @Gathered.add_eq_ok database association backward
        ⟨⟨withCollections collection before,
          memory.session.linkAll backward (withCollections collection before)⟩, memory.loaded⟩
        last _ ⟨content, (content?_linkAll_of_or hkept).trans hcontent, hrecords⟩ hone.2
      have hfamilies : withCollections collection (before ++ [last]) =
          withCollections collection before ++ [(last, collection last)] := List.map_append
      rw [childrenOf] at hbefore ⊢
      rw [List.map_append, List.foldlM_append, hbefore, hfamilies, Session.linkAll_concat]
      simp only [List.map_cons, List.map_nil, List.foldlM_cons, List.foldlM_nil, hlast, bind,
        Except.bind, pure, Except.pure]

/-- **Children gathered in memory.**  From any parents whose collections are loaded, in any order and
however often they come, all children are gathered: the collections one after the other.  Each child then
holds the last parent that has it.  No other attribute of a child and nothing of any other record is
different, and no record has come to have changes to be saved. -/
theorem childrenOf_loaded
    (hloaded : ∀ parent ∈ parents, memory.Collects association parent (collection parent))
    (hmany : ∀ parent ∈ parents, HasCollection database.schema association parent)
    (hone : ∀ parent ∈ parents, ∀ child ∈ collection parent,
      TakesOne database.schema backward child) :
    ∃ gathered, memory.childrenOf database (parents.map some) association backward = .ok gathered ∧
      gathered.linked.children = parents.flatMap collection ∧
      (∀ child ∈ gathered.linked.children, ∃ parent, IsLastHolder collection parents child parent ∧
        gathered.memory.content? child backward = some (.held (.record parent))) ∧
      (∀ id field, id ∉ gathered.linked.children ∨ field ≠ backward →
        gathered.memory.content? id field = memory.content? id field) ∧
      gathered.memory.session.dirty = memory.session.dirty := by
  refine ⟨_, Memory.childrenOf_eq_ok hloaded hmany hone, children_withCollections, ?_, ?_,
    Session.dirty_linkAll _ _ _⟩
  · intro child hchild
    rw [Linked.children, children_withCollections] at hchild
    obtain ⟨parent, hparent⟩ := exists_isLastHolder hchild
    refine ⟨parent, hparent, ?_⟩
    simp only [Gathered.memory, Memory.content?, hparent.held?]
  · exact fun id field h => Memory.content?_linkAll_of_or h

end Gathering

namespace Sample

/-- A category, by its number. -/
def categoryId (number : Int) : RecordId :=
  ⟨"Category", [.int number]⟩

/-- Collections of categories: the second one is in the first, and the fourth in both. -/
def subcategories (parent : RecordId) : List RecordId :=
  if parent = categoryId 1 then [categoryId 2, categoryId 4]
  else if parent = categoryId 2 then [categoryId 3, categoryId 4]
  else []

/-- Categories in memory with these collections.  The fourth has been taken for one of the second, and
the third has a change to be saved. -/
def categoriesInMemory : Memory where
  loaded := [
    ((categoryId 1, "children"), .collection [categoryId 2, categoryId 4]),
    ((categoryId 2, "children"), .collection [categoryId 3, categoryId 4]),
    ((categoryId 3, "name"), .cell .string (.text "fiction"))]
  session := ⟨[((categoryId 4, "parent"), .record (categoryId 2))], [categoryId 3]⟩

end Sample

/-- The first of these categories comes twice, and so what is in both it and the second is linked to it in
the end. -/
theorem childrenOf_loaded_categories :
    ∃ gathered, Sample.categoriesInMemory.childrenOf Sample.database
        ([1, 2, 1].map (some ∘ Sample.categoryId)) "children" "parent" = .ok gathered ∧
      gathered.linked.children = [2, 4, 3, 4, 2, 4].map Sample.categoryId ∧
      (∀ child ∈ gathered.linked.children, ∃ parent,
        IsLastHolder Sample.subcategories ([1, 2, 1].map Sample.categoryId) child parent ∧
        gathered.memory.content? child "parent" = some (.held (.record parent))) ∧
      (∀ id field, id ∉ gathered.linked.children ∨ field ≠ "parent" →
        gathered.memory.content? id field = Sample.categoriesInMemory.content? id field) ∧
      gathered.memory.session.dirty = [Sample.categoryId 3] := by
  have hcontent : ∀ parent ∈ [1, 2, 1].map Sample.categoryId,
      Sample.categoriesInMemory.content? parent "children" =
        some (.collection (Sample.subcategories parent)) := by decide
  have hmany : ∀ parent ∈ [1, 2, 1].map Sample.categoryId,
      HasCollection Sample.database.schema "children" parent :=
    List.forall_mem_map.mpr fun _ _ => ⟨Sample.category, _, rfl, rfl, rfl⟩
  have hcategories : ∀ parent ∈ [1, 2, 1].map Sample.categoryId,
      ∀ child ∈ Sample.subcategories parent, child.entity = "Category" := by decide
  have hone : ∀ parent ∈ [1, 2, 1].map Sample.categoryId, ∀ child ∈ Sample.subcategories parent,
      TakesOne Sample.database.schema "parent" child := fun parent hparent child hchild =>
    ⟨Sample.category, by rw [hcategories parent hparent child hchild]; rfl, rfl⟩
  obtain ⟨gathered, hgathered, hchildren, hlast, hrest, hdirty⟩ :=
    @childrenOf_loaded Sample.database "children" "parent" Sample.categoriesInMemory
      ([1, 2, 1].map Sample.categoryId) Sample.subcategories
      (fun parent hparent => ⟨_, hcontent parent hparent, rfl⟩) hmany hone
  exact ⟨gathered, hgathered, hchildren.trans (by decide), hlast, hrest, hdirty⟩

end FilterQuery
