import FilterQuery.Build
import FilterQuery.Sql.Result

/-!
# Children of filtered parents

Parents can be fetched along with the rows of one of their collections.  The children come back in
one list, and each is linked to the parent under which it was found.

* `childRelationship` — the collection of a name.
* `Inverse`, `parentAttribute` — the attribute of a child that refers to its parent.
* `Session`, `Session.attach`, `Session.adopt` — what records hold, and linking a child to a parent.
* `Linked.add` — linking the children of one more parent.
* `Memory`, `Memory.read` — records in memory, and what their attributes are.
* `Memory.childrenOf`, `childrenOf`, `linkLoaded` — finding the children, and linking them all.
-/

namespace FilterQuery

open FilterQuery.Sql

/-! ## The collection and its inverse -/

/-- Why a name is no collection of an entity. -/
inductive AssociationFault where
  | noEntity
  /-- An alias has no relationships. -/
  | missingPart (name : String)
  /-- The root is a class that no table stores. -/
  | notMapped
  | noRelationship (entity name : String)
  | notCollection (entity name : String)
  deriving DecidableEq, Repr

/-- The relationship of an entity that leads to its children. -/
def collectionOf (entity : Entity) (association : String) :
    Except AssociationFault Relationship :=
  match entity.relationship? association with
  | none => .error (.noRelationship entity.name association)
  | some relationship =>
    if relationship.isMany then .ok relationship
    else .error (.notCollection entity.name association)

/-- The root entity and its relationship that leads to the children. -/
def childRelationship (root : Root) (association : String) :
    Except AssociationFault (Entity × Relationship) :=
  match root with
  | .entity entity => (collectionOf entity association).map (Prod.mk entity)
  | .aliased _ => .error (.missingPart "relationships")
  | .unmapped _ _ => .error .notMapped
  | .none => .error .noEntity

/-- What is known of the way back from the children of a relationship. -/
structure Inverse where
  /-- The relationship in one text. -/
  relationship : String
  child : Entity
  /-- The declared inverse. -/
  declared : Value
  /-- The inverse that is declared from this side: its name, or a tuple that starts with it. -/
  backReference : Value
  deriving Repr

/-- Why no attribute refers to the parent. -/
inductive InverseFault where
  /-- No name is given, and no inverse is declared. -/
  | unknown (child relationship : String)
  | noRelationship (child name : String)
  /-- What is given is of a type that no name has, and cannot be looked up. -/
  | unhashable (type : String)
  deriving DecidableEq, Repr

/-- The way back from a relationship of an entity. -/
def Inverse.ofRelationship (entity : Entity) (relationship : Relationship) (child : Entity) :
    Inverse :=
  ⟨entity.name ++ "." ++ relationship.name, child, relationship.inverse.elim .null .str, .null⟩

/-- The name that refers to the parent: the one given, else the declared inverse, else the one
declared from the other side. -/
def Inverse.name (inverse : Inverse) (given : Value) : Value :=
  if given.isTruthy then given
  else if inverse.declared.isTruthy then inverse.declared
  else
    match inverse.backReference with
    | .tuple (first :: _) => first
    | other => other

/-- The attribute of a child that refers to its parent. -/
def parentAttribute (inverse : Inverse) (given : Value) : Except InverseFault String :=
  let name := inverse.name given
  if !name.isTruthy then .error (.unknown inverse.child.name inverse.relationship)
  else
    match name.unhashable?, name.text?.bind inverse.child.relationship? with
    | some type, _ => .error (.unhashable type)
    | none, some relationship => .ok relationship.name
    | none, none => .error (.noRelationship inverse.child.name name.display)

/-! ## Links between records -/

/-- What a record holds under an attribute. -/
inductive Held where
  | record (id : RecordId)
  | nothing
  /-- A collection without records. -/
  | empty
  deriving DecidableEq, Repr

/-- What records hold, as far as that is loaded, and which of them have changes to be saved. -/
structure Session where
  held : Entries (RecordId × String) Held
  dirty : List RecordId
  deriving DecidableEq, Repr

/-- Why a child cannot be linked to its parent. -/
inductive LinkFault where
  /-- Things of this type have no such attribute. -/
  | noField (type name : String)
  /-- What is held is of this type, and no collection. -/
  | notIterable (type : String)
  /-- The child has no such attribute. -/
  | unknownAttribute (name : String)
  deriving DecidableEq, Repr

namespace Session

/-- Nothing is loaded. -/
def empty : Session :=
  ⟨[], []⟩

/-- What a record holds under an attribute, if that is loaded. -/
def held? (session : Session) (id : RecordId) (name : String) : Option Held :=
  session.held.lookup (id, name)

/-- What an attribute of an entity holds when it is set to a parent.  A collection takes no single
record. -/
def heldFor (entity : Entity) (name : String) (parent : Option RecordId) :
    Except LinkFault Held :=
  match entity.relationship? name, entity.column? name with
  | some relationship, _ =>
    match relationship.isMany, parent with
    | true, some id => .error (.notIterable id.entity)
    | true, none => .ok .empty
    | false, some id => .ok (.record id)
    | false, none => .ok .nothing
  | none, some _ => .ok (parent.elim .nothing .record)
  | none, none => .error (.unknownAttribute name)

/-- Sets an attribute of a child to its parent, as if it had been loaded so: nothing else is
loaded, and nothing is left to be saved. -/
def attach (schema : Schema) (session : Session) (child : RecordId) (name : String)
    (parent : Option RecordId) : Except LinkFault Session :=
  match schema.entity? child.entity with
  | none => .error (.unknownAttribute name)
  | some entity => do
    let value ← heldFor entity name parent
    return { session with held := Entries.put session.held (child, name) value }

/-- How a record that links itself goes about it: it hands over to `attach`. -/
def attachItself (schema : Schema) (session : Session) (child : RecordId)
    (parent : Option RecordId) (name : String) : Except LinkFault Session :=
  session.attach schema child name parent

/-- Links a child to its parent, by a way of its own if it has one. -/
def adopt (schema : Schema) (session : Session) (child : RecordId) (name : String)
    (parent : Option RecordId) : Except LinkFault Session :=
  if (schema.entity? child.entity).any Entity.linksParent then
    session.attachItself schema child parent name
  else session.attach schema child name parent

/-- A way of its own comes to the same. -/
@[simp]
theorem adopt_eq_attach (schema : Schema) (session : Session) (child : RecordId) (name : String)
    (parent : Option RecordId) :
    session.adopt schema child name parent = session.attach schema child name parent :=
  ite_self _

/-- The relationships of a record that are not loaded, sorted. -/
def unloaded (schema : Schema) (session : Session) (id : RecordId) : List String :=
  let names := ((schema.entity? id.entity).elim [] Entity.relationships).map Relationship.name
  (names.filter fun name => (session.held? id name).isNone).mergeSort fun a b => decide (a ≤ b)

end Session

/-- Links the children of one parent. -/
def linkFamily (schema : Schema) (name : String) (session : Session) (parent : RecordId)
    (children : List RecordId) : Except LinkFault Session :=
  children.foldlM (fun session child => session.adopt schema child name (some parent)) session

/-- Parents with their children, and what the children hold. -/
structure Linked where
  families : List (RecordId × List RecordId)
  session : Session
  deriving Repr

/-- Nothing is linked yet. -/
def Linked.start : Linked :=
  ⟨[], .empty⟩

/-- Links the children of one more parent. -/
def Linked.add (schema : Schema) (name : String) (linked : Linked) (parent : RecordId)
    (children : List RecordId) : Except LinkFault Linked := do
  let session ← linkFamily schema name linked.session parent children
  return ⟨linked.families ++ [(parent, children)], session⟩

/-- All children in one list, in the order of their parents. -/
def Linked.children (linked : Linked) : List RecordId :=
  linked.families.flatMap Prod.snd

/-! ## Loaded collections -/

/-- The row of a record. -/
def Sql.Database.row? (database : Database) (entity : Entity) (key : List Cell) : Option Row :=
  (database.rows entity.table).find? fun row => Entity.keyOf entity row == key

/-- The record with a primary key, if there is one. -/
def Sql.Database.fetch? (database : Database) (entity : Entity) (key : List Value) :
    Option RecordId :=
  let cells := (entity.keyColumns.zip key).map fun (column, value) =>
    comparand column.type (Binding.cell column.type value)
  if entity.keyColumns.length = key.length then
    (database.row? entity cells).map fun row => recordOf entity row
  else none

/-- The related records of a record's row, in the declared order. -/
def relatedRecords (database : Database) (eager : Eager) (row : Row) : List RecordId :=
  (sortBy eager.sortKeys (eager.joins.foldl database.join [[(eager.holder, row)]])).map
    fun assignment => recordOf eager.target (assignment.row eager.source)

/-- What an attribute of a record is. -/
inductive Content where
  | held (what : Held)
  | collection (records : List RecordId)
  /-- The cell of a column of this type. -/
  | cell (type : ColumnType) (content : Cell)
  deriving DecidableEq, Repr

/-- The records that an attribute yields when it is gone through.  A single value is none; of a text
each character would be a child, but a character holds no parent. -/
def Content.records : Content → Except LinkFault (List RecordId)
  | held .empty => .ok []
  | held .nothing => .error (.notIterable "NoneType")
  | held (.record id) => .error (.notIterable id.entity)
  | collection records => .ok records
  | cell type content =>
    let value := content.toValue type
    match value.items? with
    | some [] => .ok []
    | some _ => .error (.noField value.typeName "_sa_instance_state")
    | none => .error (.notIterable value.qualifiedTypeName)

/-- What an attribute of a stored record is. -/
def Sql.Database.load (database : Database) (id : RecordId) (name : String) :
    Except LinkFault Content :=
  match database.schema.entity? id.entity with
  | none => .error (.noField id.entity name)
  | some entity =>
    let row := (database.row? entity id.key).getD []
    match entity.relationship? name, entity.columnOrSynonym? name with
    | some relationship, _ =>
      match database.schema.target? relationship with
      | none => .error (.noField id.entity name)
      | some target =>
        let records := relatedRecords database ⟨entity, relationship, target⟩ row
        if relationship.isMany then .ok (.collection records)
        else .ok (.held (records.head?.elim .nothing .record))
    | none, some column => .ok (.cell column.type (row.cell column.name))
    | none, none => .error (.noField id.entity name)

/-- Records in memory: what has been loaded of them, and over that what they have been set to. -/
structure Memory where
  loaded : Entries (RecordId × String) Content
  session : Session
  deriving DecidableEq, Repr

namespace Memory

/-- Nothing is loaded. -/
def empty : Memory :=
  ⟨[], .empty⟩

/-- What an attribute of a record is, if that is known. -/
def content? (memory : Memory) (id : RecordId) (name : String) : Option Content :=
  match memory.session.held? id name with
  | some held => some (.held held)
  | none => memory.loaded.lookup (id, name)

/-- What an attribute of a record is, and all that is loaded then: what is not known yet is loaded,
and stays so. -/
def read (database : Database) (memory : Memory) (id : RecordId) (name : String) :
    Except LinkFault (Content × Entries (RecordId × String) Content) :=
  match memory.content? id name with
  | some content => .ok (content, memory.loaded)
  | none => do
    let content ← database.load id name
    return (content, memory.loaded.put (id, name) content)

end Memory

/-- Parents with their children, and what is loaded beside what the children hold. -/
structure Gathered where
  linked : Linked
  loaded : Entries (RecordId × String) Content
  deriving Repr

/-- The records in memory. -/
def Gathered.memory (gathered : Gathered) : Memory :=
  ⟨gathered.loaded, gathered.linked.session⟩

/-- Finds and links the children of one more parent. -/
def Gathered.add (database : Database) (association backward : String) (gathered : Gathered)
    (parent : Option RecordId) : Except LinkFault Gathered :=
  match parent with
  | none => .error (.noField "NoneType" association)
  | some id => do
    let (content, loaded) ← gathered.memory.read database id association
    let children ← content.records
    let linked ← gathered.linked.add database.schema backward id children
    return ⟨linked, loaded⟩

/-- Links the children of parents in memory, parent by parent. -/
def Memory.childrenOf (database : Database) (memory : Memory) (parents : List (Option RecordId))
    (association backward : String) : Except LinkFault Gathered :=
  parents.foldlM (Gathered.add database association backward)
    ⟨⟨[], memory.session⟩, memory.loaded⟩

/-- Links the children of parents of which nothing is loaded yet. -/
def childrenOf (database : Database) (parents : List (Option RecordId)) (association : String)
    (backward : String) : Except LinkFault Linked :=
  (Memory.empty.childrenOf database parents association backward).map Gathered.linked

/-- Links the children that were loaded along with their parents.  What is no record has no
children. -/
def linkLoaded (schema : Schema) (families : List Family) (association backward : String) :
    Except LinkFault Linked :=
  families.foldlM (fun linked family =>
    match family.parent with
    | .record id => linked.add schema backward id family.children
    | .cell type cell => .error (.noField (cell.toValue type).typeName association)) .start

end FilterQuery
