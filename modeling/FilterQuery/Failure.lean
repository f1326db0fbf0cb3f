import FilterQuery.Details
import FilterQuery.Logging.Logger
import FilterQuery.Query
import FilterQuery.SettingsFile

/-!
# Failures

All ways in which an operation of this library can fail, and how a failure is reported: its kind,
its wording, the details of the library's own errors, and what caused it.

* `Failure` — the ways to fail.
* `Failure.report` — the report of a failure.
-/

namespace FilterQuery

open FilterQuery.Sql

/-- A way to fail. -/
inductive Failure where
  | path (fault : PathFault)
  | mapping (fault : MappingFault)
  | declaration (fault : DeclarationFault)
  /-- An operator is unknown: its display form, and the field it belongs to. -/
  | unknownOperator (operator : String) (field : Value)
  | operand (fault : OperandFault)
  | scope (fault : ScopeFault)
  | settings (fault : SettingsFault)
  /-- Options are not what they have to be. -/
  | validation (fault : Options.ReadFault)
  | options (fault : OptionsFault)
  | build (fault : BuildFault)
  | query (fault : QueryFault)
  | association (fault : AssociationFault)
  | inverse (fault : InverseFault)
  | link (fault : LinkFault)
  | children (fault : ChildrenFault)
  | run (fault : RunFault)
  | details (fault : DetailsFault)
  | file (fault : FileFault)
  | setting (fault : Logging.SettingFault)
  | setup (fault : Logging.SetupFault)
  | configure (fault : Logging.ConfigureFault)
  | call (fault : Logging.CallFault)
  | disk (fault : Logging.DiskFault)
  /-- No manager of logging has this name. -/
  | unknownManager (name : String)
  deriving Repr

/-- The report of a failure. -/
structure Report where
  kind : String
  /-- The wording; database errors have none of their own. -/
  message : Option String
  /-- The details of the library's own errors. -/
  details : Option Mapping
  /-- The kind of the failure behind this one. -/
  cause : Option String
  issues : List Issue
  deriving Repr

namespace Report

/-- A report with nothing but a wording. -/
def plain (kind message : String) : Report :=
  ⟨kind, some message, none, none, []⟩

/-- A report of a database error. -/
def silent (kind : String) : Report :=
  ⟨kind, none, none, none, []⟩

/-- A report of one of the library's own errors. -/
def own (errorClass : ErrorClass) (message : String) (details : List (String × Value)) : Report :=
  ⟨errorClass.name, some message, some (details.map fun entry => (.str entry.1, entry.2)), none,
    []⟩

/-- A report of unusable settings or surroundings, with the settings key if one is known. -/
def configuration (message : String) (key : Option String) : Report :=
  own .configuration message (key.toList.map fun name => ("config_key", .str name))

@[simp]
theorem kind_plain (kind message : String) : (plain kind message).kind = kind := rfl

@[simp]
theorem kind_configuration (message : String) (key : Option String) :
    (configuration message key).kind = "ConfigurationError" := rfl

end Report

/-! ## Wording -/

/-- The report of a value that cannot be written. -/
def Value.WriteFault.report (fault : WriteFault) : Report :=
  match fault with
  | tooManyDigits => .plain "ValueError" fault.message
  | tooDeep => .plain "RecursionError" fault.message

/-- The report of a value that describes no mapping. -/
def MappingFault.report : MappingFault → Report
  | notIterable type => .plain "TypeError" ("'" ++ type ++ "' object is not iterable")
  | notPair place =>
    .plain "TypeError" ("cannot convert dictionary update sequence element #"
      ++ toString place ++ " to a sequence")
  | wrongLength place length =>
    .plain "ValueError" ("dictionary update sequence element #" ++ toString place
      ++ " has length " ++ toString length ++ "; 2 is required")
  | unhashable type => .plain "TypeError" ("unhashable type: '" ++ type ++ "'")

/-- The report of a declaration that gives no path. -/
def PathFault.report : PathFault → Report
  | emptySegment declared => .plain "ValueError" ("Invalid field path: " ++ declared)
  | notIterable type => .plain "TypeError" ("'" ++ type ++ "' object is not iterable")

/-- The report of a failed declaration. -/
def DeclarationFault.report : DeclarationFault → Report
  | path fault => fault.report
  | operators fault => fault.report
  | repeated argument =>
    .plain "TypeError"
      ("QueryDefinition.filter_field() got multiple values for argument '" ++ argument ++ "'")

/-- The report of an unknown operator.  A field that is not known is no detail. -/
def unknownOperatorReport (operator : String) (field : Value) : Report :=
  .own .unknownOperator (unknownOperatorText operator field.display)
    (("operator", .str operator) ::
      match field with
      | .null => []
      | known => [("field", known)])

/-- The report of an operator that cannot take a value. -/
def OperandFault.report (fault : OperandFault) : Report :=
  match fault with
  | notOrdered => .plain "ArgumentError" fault.message
  | notText => .plain "TypeError" fault.message

/-- The report of a base statement that cannot be built. -/
def ScopeFault.report : ScopeFault → Report
  | unknownName name => .plain "AttributeError" name
  | operand fault => fault.report
  | notOrdering shown =>
    .plain "ArgumentError" ("ORDER BY expression expected, got " ++ shown ++ ".")

/-- The report of issues with a subject. -/
def issueReport (lead : String) (issues : List Issue) (subject : String) (key : Option String) :
    Report :=
  { Report.configuration (lead ++ issueCount issues subject) key with
    cause := some "ValidationError", issues := issues }

/-- The report of unusable settings: their first issue names the settings key. -/
def SettingsFault.report : SettingsFault → Report
  | mapping fault => fault.report
  | invalid issues =>
    issueReport "Invalid configuration: " issues "IndexQueryConfig"
      ((issues.head?.map Issue.placeText).filter (!·.isEmpty))

/-- The report of unusable options. -/
def OptionsFault.report : OptionsFault → Report
  | notMapping type => .configuration ("Options must be a mapping, got " ++ type) none
  | invalid key issues => issueReport "Invalid filter values: " issues "QueryOptions" (some key)
  | tooDeep => Value.WriteFault.tooDeep.report

/-- The report of a value that is no filter values. -/
def Options.ReadFault.report : ReadFault → Report
  | invalid issues =>
    { Report.plain "ValidationError" (issueCount issues "QueryOptions") with issues := issues }
  | tooDeep => Value.WriteFault.tooDeep.report

/-- The report of a value that is no container. -/
def LookupFault.report (fault : LookupFault) : Report :=
  .plain "TypeError" fault.message

/-- The wording for a base statement without an entity. -/
def noEntityReport : Report :=
  .configuration "Base scope must select a mapped entity, e.g. select(Post)" none

/-- The report of a query that cannot be built. -/
def BuildFault.report : BuildFault → Report
  | noEntity => noEntityReport
  | notMapped written => .configuration (written ++ " is not a mapped class") none
  | unknownOperator operator field => unknownOperatorReport operator (.str field)
  | invalidPath field cause =>
    .own .invalidFieldPath ("Invalid field path '" ++ field ++ "': " ++ cause.reason)
      ([("field", .str field)] ++ cause.segment?.toList.map (fun name => ("segment", .str name))
        ++ [("model", .str cause.model)])
  | lookup fault => fault.report
  | operand fault => fault.report
  | missingPart name => .plain "AttributeError" name
  | missingField entity name =>
    .plain "AttributeError" ("type object '" ++ entity ++ "' has no attribute '" ++ name ++ "'")
  | scope fault => fault.report

/-- The report of a failed query. -/
def QueryFault.report : QueryFault → Report
  | configure type =>
    .configuration ("configure must be callable or a QueryDefinition, got " ++ type) none
  | declaration fault => fault.report
  | options fault => fault.report
  | build fault => fault.report

/-- The report of a name that is no collection. -/
def AssociationFault.report : AssociationFault → Report
  | noEntity => noEntityReport
  | missingPart name => .plain "AttributeError" name
  | notMapped =>
    .plain "NoInspectionAvailable"
      "No inspection system is available for object of type <class 'type'>"
  | noRelationship entity name =>
    .configuration (entity ++ " has no relationship '" ++ name ++ "'") (some "child_association")
  | notCollection entity name =>
    .configuration (entity ++ "." ++ name ++ " is not a collection") (some "child_association")

/-- The report of a missing way back to the parent. -/
def InverseFault.report : InverseFault → Report
  | unknown child relationship =>
    .configuration ("Cannot tell which attribute of " ++ child
      ++ " refers to its parent; declare back_populates on " ++ relationship
      ++ " or pass parent_attribute") (some "parent_attribute")
  | noRelationship child name =>
    .configuration (child ++ " has no relationship '" ++ name ++ "'") (some "parent_attribute")
  | unhashable type => .plain "TypeError" ("unhashable type: '" ++ type ++ "'")

/-- The report of a child that cannot be linked. -/
def LinkFault.report : LinkFault → Report
  | noField type name =>
    .plain "AttributeError" ("'" ++ type ++ "' object has no attribute '" ++ name ++ "'")
  | notIterable type => .plain "TypeError" ("'" ++ type ++ "' object is not iterable")
  | unknownAttribute name => .plain "KeyError" (Value.literal (.str name))

/-- The report of a query without a result.  An ordering that is not read here is reported as if the
database had refused it. -/
def Sql.RunFault.report : RunFault → Report
  | missingValue name =>
    .plain "StatementError" ("A value is required for bind parameter " ++ Text.quoted name)
  | refused message => .plain "StatementError" message
  | misread | unread => .silent "OperationalError"
  | unsupported => .silent "ProgrammingError"
  | tooLarge => .plain "OverflowError" "Python int too large to convert to SQLite INTEGER"

/-- An entity with its table, as it is named in a message. -/
def mapperText (entity : String × String) : String :=
  "Mapper[" ++ entity.1 ++ "(" ++ entity.2 ++ ")]"

/-- The report of children that cannot be fetched. -/
def ChildrenFault.report : ChildrenFault → Report
  | association fault => fault.report
  | inverse fault => fault.report
  | query fault => fault.report
  | onlyColumns relationship =>
    .plain "ArgumentError"
      ("Query has only expression-based entities; attribute loader option joinedload("
        ++ relationship ++ ") can't be applied here.")
  | otherEntities entity selected =>
    .plain "ArgumentError" ("Mapped class " ++ mapperText entity
      ++ " does not apply to any of the root entities in this query, e.g. "
      ++ ", ".intercalate (selected.map mapperText)
      ++ ". Please specify the full path from one of the root entities to the target attribute. ")
  | run fault => fault.report
  | link fault => fault.report

/-- The report of an error without details. -/
def DetailsFault.report : DetailsFault → Report
  | noEntries type =>
    .plain "TypeError" ("'" ++ type ++ "' object does not support item assignment")
  | needsIndex => .plain "TypeError" "list indices must be integers or slices, not str"
  | mapping fault => fault.report
  | repeated errorClass argument =>
    .plain "TypeError"
      (errorClass ++ ".__init__() got multiple values for argument '" ++ argument ++ "'")

/-- The report of a text that is no whole number.  Of a long text only the start is shown. -/
def notIntegerReport (base : Nat) (text : String) : Report :=
  .plain "ValueError" ("invalid literal for int() with base " ++ toString base ++ ": "
    ++ String.ofList ((Text.quoted text).toList.take 200))

/-- The report of a decimal number of too many digits. -/
def tooManyDigitsReport (count : Nat) : Report :=
  .plain "ValueError" ("Exceeds the limit (" ++ toString Text.digitLimit
    ++ " digits) for integer string conversion: value has " ++ toString count
    ++ " digits; use sys.set_int_max_str_digits() to increase the limit")

/-- The report of a scalar that is no value of its type. -/
def Yaml.ScalarFault.report : ScalarFault → Report
  | notInteger base text => notIntegerReport base text
  | tooManyDigits count => tooManyDigitsReport count
  | notNumber text =>
    .plain "ValueError" ("could not convert string to float: " ++ Text.quoted text)
  | notTruth text => .plain "KeyError" (Text.quoted text)
  | emptyNumber => .plain "IndexError" "string index out of range"
  | notTimestamp =>
    .plain "AttributeError" "'NoneType' object has no attribute 'groupdict'"
  | tooManyParts => .plain "OverflowError" "int too large to convert to float"
  | yearOutOfRange year =>
    .plain "ValueError" ("year " ++ toString year ++ " is out of range")
  | monthOutOfRange => .plain "ValueError" "month must be in 1..12"
  | dayOutOfRange => .plain "ValueError" "day is out of range for month"
  | hourOutOfRange => .plain "ValueError" "hour must be in 0..23"
  | minuteOutOfRange => .plain "ValueError" "minute must be in 0..59"
  | secondOutOfRange => .plain "ValueError" "second must be in 0..59"
  | offsetOutOfRange seconds =>
    .plain "ValueError" ("offset must be a timedelta strictly between -timedelta(hours=24) and "
      ++ "timedelta(hours=24), not " ++ Value.spanLiteral seconds ++ ".")
  | noCharacter code =>
    if code < 0x80000000 then .plain "ValueError" "chr() arg not in range(0x110000)"
    else .plain "OverflowError" "Python int too large to convert to C int"

/-- The report of a settings file that cannot be read, and what caused it. -/
def unreadableFile (path cause detail : String) : Report :=
  { Report.configuration ("Failed to load configuration from " ++ path ++ detail) none with
    cause := some cause }

@[simp]
theorem kind_unreadableFile (path cause detail : String) :
    (unreadableFile path cause detail).kind = "ConfigurationError" := rfl

/-- The report of a document without a value.  Only the class of its fault is told. -/
def documentReport (path : String) (fault : Yaml.Fault) : Report :=
  match fault with
  | .encoding fault => .plain "UnicodeDecodeError" fault.message
  | .character => unreadableFile path "ReaderError" ""
  | .token => unreadableFile path "ScannerError" ""
  | .arrangement => unreadableFile path "ParserError" ""
  | .reference => unreadableFile path "ComposerError" ""
  | .content => unreadableFile path "ConstructorError" ""
  | .scalar fault => fault.report

/-- The report of a file that gives no settings. -/
def FileFault.report : FileFault → Report
  | missing path =>
    unreadableFile path "FileNotFoundError"
      (": [Errno 2] No such file or directory: " ++ Text.quoted path)
  | directory path =>
    unreadableFile path "IsADirectoryError" (": [Errno 21] Is a directory: " ++ Text.quoted path)
  | refused path kind reason => unreadableFile path kind (": " ++ reason)
  | nullCharacter => .plain "ValueError" "embedded null byte"
  | document path fault => documentReport path fault
  | notMapping path =>
    .configuration ("Configuration file " ++ path ++ " must contain a mapping") none
  | settings fault => fault.report

/-- The report of a value that is no setting of logging. -/
def Logging.SettingFault.report : SettingFault → Report
  | unknownLevel shown => .plain "ValueError" ("Unknown log level: " ++ shown)
  | notWhole text => notIntegerReport 10 text
  | tooManyDigits count => tooManyDigitsReport count
  | unwritten fault => fault.report

/-- The report of a path that cannot be used. -/
def Logging.DiskFault.report (fault : DiskFault) : Report :=
  let failed (kind : String) (number : Nat) (reason path : String) : Report :=
    .plain kind ("[Errno " ++ toString number ++ "] " ++ reason ++ ": " ++ Text.quoted path)
  match fault with
  | nullCharacter => .plain "ValueError" "embedded null byte"
  | fileExists path => failed "FileExistsError" 17 "File exists" path
  | notFolder path => failed "NotADirectoryError" 20 "Not a directory" path
  | isFolder path => failed "IsADirectoryError" 21 "Is a directory" path
  | nameTooLong path => failed "OSError" 36 "File name too long" path
  | missing path => failed "FileNotFoundError" 2 "No such file or directory" path
  | noSpace => .plain "OSError" "[Errno 28] No space left on device"
  | tooManyFolders => .plain "RecursionError" "maximum recursion depth exceeded"

/-- What keeps a manager of logging from being installed. -/
def Logging.SetupFault.cause : SetupFault → Report
  | setting fault => fault.report
  | notSection type =>
    .plain "AttributeError" ("'" ++ type ++ "' object has no attribute 'get'")
  | notPath type =>
    .plain "TypeError" ("expected str, bytes or os.PathLike object, not " ++ type)
  | bytesPath =>
    .plain "TypeError"
      ("argument should be a str object or an os.PathLike object returning str, "
        ++ "not <class 'bytes'>")
  | disk fault => fault.report
  | closing => DiskFault.noSpace.report

/-- The report of a manager of logging that cannot be installed: it is made of the cause if this is
caught. -/
def Logging.SetupFault.report (fault : SetupFault) : Report :=
  let cause := fault.cause
  if fault.isCaught then
    { Report.configuration ("Failed to configure logging: " ++ cause.message.getD "")
        (some "logging") with cause := some cause.kind }
  else cause

/-- The report of logging that cannot be configured. -/
def Logging.ConfigureFault.report : ConfigureFault → Report
  | unsupported type =>
    .configuration ("Unsupported logging configuration: " ++ type) (some "logging")
  | settings fault => fault.report
  | setup fault => fault.report
  | closing => DiskFault.noSpace.report

/-- The report of an event without a record. -/
def Logging.RecordFault.report : RecordFault → Report
  | reserved name =>
    .plain "KeyError" (Text.quoted ("Attempt to overwrite " ++ Text.quoted name ++ " in LogRecord"))
  | notText type =>
    .plain "TypeError" ("can only concatenate str (not \"" ++ type ++ "\") to str")

/-- The report of a call that a logger does not take. -/
def Logging.CallFault.report : CallFault → Report
  | notBindable type =>
    .plain "AttributeError" ("'" ++ type ++ "' object has no attribute 'bind'")
  | repeatedArgument method name =>
    .plain "TypeError" (method ++ "() got multiple values for argument '" ++ name ++ "'")
  | unknownArgument method name =>
    .plain "TypeError" (method ++ "() got an unexpected keyword argument '" ++ name ++ "'")
  | record fault => fault.report

/-- The report of a failure. -/
def Failure.report : Failure → Report
  | path fault => fault.report
  | mapping fault => fault.report
  | declaration fault => fault.report
  | unknownOperator operator field => unknownOperatorReport operator field
  | operand fault => fault.report
  | scope fault => fault.report
  | settings fault => fault.report
  | validation fault => fault.report
  | options fault => fault.report
  | build fault => fault.report
  | query fault => fault.report
  | association fault => fault.report
  | inverse fault => fault.report
  | link fault => fault.report
  | children fault => fault.report
  | run fault => fault.report
  | details fault => fault.report
  | file fault => fault.report
  | setting fault => fault.report
  | setup fault => fault.report
  | configure fault => fault.report
  | call fault => fault.report
  | disk fault => fault.report
  | unknownManager name => .plain "KeyError" (Text.quoted name)

end FilterQuery
