import FilterQuery.Sql.Database

/-!
# A sample database

Posts with authors, comments and tags; products with categories, reviews, variants, labels and
details.  The schema has all that relationships can be: single and many, from either side, over a
table of pairs, over keys of two columns, and from a table to itself.

* `Sample.schema` — the entities.
* `Sample.database` — their rows.
-/

namespace FilterQuery.Sample

open FilterQuery.Sql

/-! ## Entities -/

/-- A column with the name of its field. -/
def column (name : String) (type : ColumnType) : Column :=
  ⟨name, name, type, false⟩

/-- A column of the primary key. -/
def key (name : String) (type : ColumnType) : Column :=
  ⟨name, name, type, true⟩

/-- A single related row that the holder refers to. -/
def refersTo (name target : String) (pairs : List (String × String)) (inverse : Option String) :
    Relationship :=
  ⟨name, target, false, .refersTo pairs, [], inverse⟩

/-- Related rows that refer to the holder. -/
def referredBy (name target : String) (pairs : List (String × String))
    (order : List (String × Bool)) (inverse : Option String) : Relationship :=
  ⟨name, target, true, .referredBy pairs, order, inverse⟩

/-- The key pair of rows that belong to a product. -/
def productKey : List (String × String) :=
  [("region", "region"), ("num", "num")]

def author : Entity where
  name := "Author"
  table := "authors"
  columns := [key "id" .integer, column "name" .string]
  relationships := []
  synonyms := []
  linksParent := false

def post : Entity where
  name := "Post"
  table := "posts"
  columns := [key "id" .integer, column "title" .string, column "subtitle" .string,
    column "posted_date" .date, column "view_count" .integer, column "author_id" .integer]
  relationships := [
    refersTo "author" "Author" [("id", "author_id")] none,
    referredBy "comments" "Comment" [("id", "post_id")] [("id", false)] (some "post"),
    referredBy "tags" "Tag" [("id", "post_id")] [("id", false)] none]
  synonyms := []
  linksParent := false

def comment : Entity where
  name := "Comment"
  table := "comments"
  columns := [key "id" .integer, column "body" .string, column "post_id" .integer,
    column "author_id" .integer]
  relationships := [
    refersTo "post" "Post" [("id", "post_id")] (some "comments"),
    refersTo "author" "Author" [("id", "author_id")] none]
  synonyms := []
  linksParent := true

def tag : Entity where
  name := "Tag"
  table := "tags"
  columns := [key "id" .integer, column "label" .string, column "post_id" .integer]
  relationships := [refersTo "post" "Post" [("id", "post_id")] none]
  synonyms := []
  linksParent := false

def category : Entity where
  name := "Category"
  table := "categories"
  columns := [key "id" .integer, column "name" .string, column "parent_id" .integer]
  relationships := [
    refersTo "parent" "Category" [("id", "parent_id")] (some "children"),
    referredBy "children" "Category" [("id", "parent_id")] [("id", false)] (some "parent"),
    referredBy "products" "Product" [("id", "category_id")] [] (some "category")]
  synonyms := []
  linksParent := false

def product : Entity where
  name := "Product"
  table := "products"
  columns := [key "region" .string, ⟨"number", "num", .integer, true⟩,
    ⟨"label", "product_name", .string, false⟩, column "price" .float, column "active" .boolean,
    column "created_at" .datetime, ⟨"rank", "order", .integer, false⟩, column "notes" .text,
    column "category_id" .integer]
  relationships := [
    refersTo "category" "Category" [("id", "category_id")] (some "products"),
    referredBy "reviews" "Review" productKey [("stars", true), ("id", false)] (some "product"),
    referredBy "variants" "Variant" productKey [] (some "owner"),
    ⟨"labels", "Label", true,
      .through "product_labels" [("region", "product_region"), ("num", "product_num")]
        [("id", "label_id")],
      [("id", false)], some "products"⟩,
    ⟨"detail", "Detail", false, .referredBy productKey, [], some "product"⟩]
  synonyms := [("title", "label")]
  linksParent := false

def review : Entity where
  name := "Review"
  table := "reviews"
  columns := [key "id" .integer, column "stars" .integer, column "text" .text,
    column "region" .string, column "num" .integer]
  relationships := [refersTo "product" "Product" productKey (some "reviews")]
  synonyms := []
  linksParent := true

def variant : Entity where
  name := "Variant"
  table := "variants"
  columns := [key "id" .integer, column "size" .string, column "region" .string,
    column "num" .integer]
  relationships := [refersTo "owner" "Product" productKey (some "variants")]
  synonyms := []
  linksParent := false

def label : Entity where
  name := "Label"
  table := "labels"
  columns := [key "id" .integer, column "text" .string]
  relationships := [
    ⟨"products", "Product", true,
      .through "product_labels" [("id", "label_id")]
        [("region", "product_region"), ("num", "product_num")],
      [("region", false), ("num", false)], some "labels"⟩]
  synonyms := []
  linksParent := false

def detail : Entity where
  name := "Detail"
  table := "details"
  columns := [key "id" .integer, column "weight" .float, column "region" .string,
    column "num" .integer]
  relationships := [refersTo "product" "Product" productKey (some "detail")]
  synonyms := []
  linksParent := false

/-- The entities, and the table of pairs between products and labels. -/
def schema : Schema where
  entities := [author, post, comment, tag, category, product, review, variant, label, detail]
  links := [⟨"product_labels", ["product_region", "product_num", "label_id"]⟩]

/-! ## Rows -/

/-- A cell with a whole number. -/
def int (number : Int) : Cell :=
  .int number

/-- A cell with a text. -/
def text (content : String) : Cell :=
  .text content

/-- A cell with a decimal number: its digits, and how many of them stand behind the point. -/
def real (digits places : Nat) : Cell :=
  .real (Double.ofDecimal false digits (-(places : Int)))

/-- A table with named columns. -/
def table (names : List String) (rows : List (List Cell)) : List Row :=
  rows.map fun cells => names.zip cells

def authors : List (List Cell) :=
  [[int 1, text "alice"],
    [int 2, text "bob"],
    [int 3, text "Zoë O'Neil"],
    [int 4, text "100%_/x"]]

def posts : List (List Cell) :=
  [[int 1, text "Writing a DSL in Python", text "intro", text "2020-01-05", int 10, int 1],
    [int 2, text "SQLAlchemy tips", .null, text "2020-01-20", int 50, int 2],
    [int 3, text "Internal dsl patterns", text "patterns", text "2020-02-01", int 5, int 2],
    [int 4, text "Release notes", .null, text "2019-12-31", int 0, .null],
    [int 5, text "100% of_a/b kinds", text "", text "2020-02-29", int (-7), int 3],
    [int 6, text "ÉCOLE école 日本語", text "İstanbul", text "1999-01-01", int 2147483648, int 4]]

def comments : List (List Cell) :=
  [[int 1, text "Great", int 1, int 1],
    [int 2, text "Thanks", int 1, int 2],
    [int 3, text "Useful", int 2, int 2],
    [int 4, text "More please", int 3, int 1],
    [int 5, text "Follow-up", int 3, int 1],
    [int 6, text "Agreed", int 3, int 2],
    [int 7, text "50% off_now/later", int 5, int 4],
    [int 8, text "great", int 6, int 3],
    [int 9, text "", int 6, int 3]]

def tags : List (List Cell) :=
  [[int 1, text "python", int 1],
    [int 2, text "dsl", int 1],
    [int 3, text "patterns", int 3],
    [int 4, text "DSL", int 6]]

def categories : List (List Cell) :=
  [[int 1, text "root", .null],
    [int 2, text "books", int 1],
    [int 3, text "fiction", int 2],
    [int 4, text "tools", int 1],
    [int 5, .null, int 4]]

def products : List (List Cell) :=
  [[text "eu", int 1, text "Novel", real 95 1, int 1, text "2021-03-01 12:00:00.000000", int 3,
      text "first", int 3],
    [text "eu", int 2, text "Hammer", real 200 1, int 0, text "2021-03-01 12:00:00.000001", int 1,
      .null, int 4],
    [text "us", int 1, text "Novel", real 1125 2, int 1, text "2020-12-31 23:59:59.000000", .null,
      text "", int 3],
    [text "us", int 2, .null, .null, .null, .null, int 2, text "50%_x/y", .null],
    [text "us", int 10, text "Saw", real 0 1, int 1, text "2022-01-01 00:00:00.000000", int 10,
      text "Loud SAW", int 4]]

def reviews : List (List Cell) :=
  [[int 1, int 5, text "good", text "eu", int 1],
    [int 2, int 1, text "bad", text "eu", int 1],
    [int 3, int 5, text "GOOD", text "us", int 1],
    [int 4, .null, .null, text "us", int 10],
    [int 5, int 3, text "orphan", .null, .null],
    [int 6, int 5, text "solid", text "eu", int 1]]

def variants : List (List Cell) :=
  [[int 1, text "S", text "eu", int 2],
    [int 2, text "L", text "eu", int 2],
    [int 3, text "S", text "us", int 10]]

def labels : List (List Cell) :=
  [[int 1, text "new"],
    [int 2, text "sale"],
    [int 3, text "unused"]]

def productLabels : List (List Cell) :=
  [[text "eu", int 1, int 1],
    [text "eu", int 1, int 2],
    [text "us", int 1, int 2],
    [text "us", int 10, int 1]]

def details : List (List Cell) :=
  [[int 1, real 4 1, text "eu", int 1],
    [int 2, real 25 1, text "eu", int 2],
    [int 3, .null, text "us", int 10]]

/-- All tables with their rows. -/
def database : Database where
  schema := schema
  tables :=
    [("authors", authors), ("posts", posts), ("comments", comments), ("tags", tags),
      ("categories", categories), ("products", products), ("reviews", reviews),
      ("variants", variants), ("labels", labels), ("product_labels", productLabels),
      ("details", details)].map fun (name, rows) => (name, table (schema.columnNames name) rows)

end FilterQuery.Sample
