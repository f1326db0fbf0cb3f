/-!
# Identifiers

A table or column name stands bare in a statement if it cannot be mistaken for anything else;
otherwise it is put between double quotes, and quotes inside are doubled.

* `Identifier.needsQuotes` — which names cannot stand bare.
* `Identifier.write` — the name as it stands in a statement.
-/

namespace FilterQuery.Sql.Identifier

/-- The words of the statement language that are no names. -/
def reservedWords : List String :=
  ["add", "after", "all", "alter", "analyze", "and", "as", "asc", "attach", "autoincrement",
    "before", "begin", "between", "by", "cascade", "case", "cast", "check", "collate", "column",
    "commit", "conflict", "constraint", "create", "cross", "current_date", "current_time",
    "current_timestamp", "database", "default", "deferrable", "deferred", "delete", "desc",
    "detach", "distinct", "drop", "each", "else", "end", "escape", "except", "exclusive",
    "exists", "explain", "false", "fail", "for", "foreign", "from", "full", "glob", "group",
    "having", "if", "ignore", "immediate", "in", "index", "indexed", "initially", "inner",
    "insert", "instead", "intersect", "into", "is", "isnull", "join", "key", "left", "like",
    "limit", "match", "natural", "not", "notnull", "null", "of", "offset", "on", "or", "order",
    "outer", "plan", "pragma", "primary", "query", "raise", "references", "reindex", "rename",
    "replace", "restrict", "right", "rollback", "row", "select", "set", "table", "temp",
    "temporary", "then", "to", "transaction", "trigger", "true", "union", "unique", "update",
    "using", "vacuum", "values", "view", "virtual", "when", "where"]

/-- The characters of a bare name: ASCII digits, underscore, dollar sign, and the small letters
whose capitals are ASCII letters. -/
def isBareChar (c : Char) : Bool :=
  ('a' ≤ c && c ≤ 'z') || ('0' ≤ c && c ≤ '9') || c == '_' || c == '$' || c == 'ı' || c == 'ſ'

/-- The characters that a bare name does not start with. -/
def isBadStart (c : Char) : Bool :=
  ('0' ≤ c && c ≤ '9') || c == '$'

/-- Whether a name cannot stand bare. -/
def needsQuotes (name : String) : Bool :=
  reservedWords.contains name || (name.toList.head?.map isBadStart).getD true
    || !name.toList.all isBareChar

/-- A name as it stands in a statement. -/
def write (name : String) : String :=
  if needsQuotes name then
    "\"" ++ String.ofList (name.toList.flatMap fun c => if c = '"' then ['"', '"'] else [c]) ++ "\""
  else name

end FilterQuery.Sql.Identifier
