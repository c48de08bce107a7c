/-
Why a document, or what is asked of it, is refused: one constructor for each cause.

Every problem is of one of six kinds, on which callers may branch; its wording is for people. A kind has a wording of
its own for when nothing more is known, and a pattern into which a detail is put.

- `Problem.kind`, `Problem.detail`: kind and detail of a problem.
- `Problem.report`: the two in the form in which a caller gets them.
-/
import EntitySchema.Json.Fault
import EntitySchema.Pattern.Fault
import EntitySchema.Vocabulary.Directive
import EntitySchema.Vocabulary.Storage

namespace EntitySchema

inductive Kind where
  /-- something that is required is absent -/
  | missing
  /-- a value that is not accepted -/
  | invalid
  /-- a file that holds no document -/
  | invalidFile
  /-- a field type that is neither builtin nor declared -/
  | unknownType
  /-- a constraint that does not fit the type of its field -/
  | unsupported
  /-- a reference to an entity that is not declared -/
  | undeclared
deriving DecidableEq, Repr

namespace Kind

def all : List Kind := [missing, invalid, invalidFile, unknownType, unsupported, undeclared]

def label : Kind → String
  | missing => "null argument"
  | invalid => "invalid argument"
  | invalidFile => "invalid file"
  | unknownType => "wrong type"
  | unsupported => "wrong validation"
  | undeclared => "undeclared entity"

/-- the wording without detail -/
def fallback : Kind → String
  | missing => "required argument is missing"
  | invalid => "value is not accepted"
  | invalidFile => "file does not hold a document"
  | unknownType => "unknown field type"
  | unsupported => "unsupported validation"
  | undeclared => "undeclared entity"

/-- the wording before and after the detail -/
def frame : Kind → String × String
  | missing => ("", " must be provided")
  | invalid => ("", "")
  | invalidFile => ("", "")
  | k => (k.fallback ++ ": ", "")

/-- the wording with a pair of braces in the place of the detail -/
def template (k : Kind) : String := k.frame.1 ++ "\x7b\x7d" ++ k.frame.2

/-- the wording with the detail, if there is one -/
def message (k : Kind) (detail : Option String) : String :=
  match detail with
  | none => k.fallback
  | some d => k.frame.1 ++ d ++ k.frame.2

end Kind

/-- a problem as a caller gets it -/
structure Report where
  kind : Kind
  message : String
deriving DecidableEq, Repr

def Report.of (kind : Kind) (detail : Option String) : Report := ⟨kind, kind.message detail⟩

inductive ClauseProblem where
  | unknown (key : String)
  | unsupported (constraint : Constraint) (type : FieldType)
  | wrongShape (constraint : Constraint) (found : Option Argument)
  | badPattern (pattern : String) (fault : Pattern.Fault)
  | repeated (constraint : Constraint)
deriving DecidableEq, Repr

inductive Problem where
  /-- no document is given -/
  | noDocument
  /-- no storage technology is given -/
  | noStorage
  | unknownStorage (name : String)
  /-- the text holds no document -/
  | unreadable (fault : Json.Fault)
  /-- no file is given -/
  | noFiles
  /-- a path is empty -/
  | noPath
  /-- nothing or a directory at this path -/
  | noFile (path : String)
  /-- the bytes of the file are no text -/
  | notText (path : String)
  /-- the text of the file holds no document -/
  | notDocument (path : String) (fault : Json.Fault)
  /-- the text of the file says that there is no document -/
  | emptyDocument (path : String)
  /-- an entity without name -/
  | namelessEntity
  /-- an enumeration without name -/
  | namelessEnumeration
  | noValues (enumeration : String)
  | emptyValue (enumeration : String)
  | repeatedValue (enumeration value : String)
  /-- a field without name -/
  | namelessField (entity : String)
  | repeatedField (entity field : String)
  | unknownType (storage : Storage) (entity field type : String)
  | clause (entity field : String) (problem : ClauseProblem)
  | unknownCardinality (name : String)
  /-- an end of a relationship without entity -/
  | namelessEnd
  | undeclaredEnd (source target entity : String)
  | unknownDirective (name : String)
  /-- a value where none may be -/
  | superfluousValue (topic : Topic) (value : String)
  /-- no value where one must be -/
  | noValue (topic : Topic)
  | wrongValue (setting : Setting) (value : String)
  | noTarget (topic : Topic)
  | undeclaredTarget (topic : Topic) (entity : String)
  | undeclaredExclusion (topic : Topic) (entity : String)
deriving DecidableEq, Repr

/-- a name between backquotes -/
def ticked (name : String) : String := "`" ++ name ++ "`"

def ClauseProblem.detail : ClauseProblem → String
  | unknown key => ticked key ++ " is not a validation"
  | unsupported k type => ticked k.name ++ " is not supported for type " ++ ticked type.name
  | wrongShape k found =>
    ticked k.name ++ " expects " ++ k.shape.describe ++ ", got " ++ (found.map Argument.display).getD "nothing"
  | badPattern pattern fault => "pattern '" ++ pattern ++ "' is not a valid regex: " ++ fault.message
  | repeated k => ticked k.name ++ " is declared twice"

namespace Problem

def kind : Problem → Kind
  | noDocument | noStorage | noFiles | noPath | namelessEntity | namelessEnumeration | namelessField _ | namelessEnd
  | noValue _ => .missing
  | unknownStorage _ | unreadable _ | noValues _ | emptyValue _ | repeatedValue _ _ | repeatedField _ _
  | unknownCardinality _ | unknownDirective _ | superfluousValue _ _ | wrongValue _ _ | noTarget _ => .invalid
  | noFile _ | notText _ | notDocument _ _ | emptyDocument _ => .invalidFile
  | unknownType _ _ _ _ => .unknownType
  | clause _ _ _ => .unsupported
  | undeclaredEnd _ _ _ | undeclaredTarget _ _ | undeclaredExclusion _ _ => .undeclared

/-- the detail of a problem; where a text cannot be read it ends with the wording of the fault, which leaves out the line
and column in the text -/
def detail : Problem → String
  | noDocument => "document"
  | noStorage => "storage technology"
  | unknownStorage name =>
    ticked name ++ " is not a storage technology (expected " ++ ", ".intercalate (Storage.all.map Storage.name) ++ ")"
  | unreadable fault => "document is not a valid structural tree: " ++ fault.message
  | noFiles => "at least one file"
  | noPath => "file path"
  | noFile path => ticked path ++ " must exist and must not be a directory"
  | notText path => ticked path ++ " could not be read: stream did not contain valid UTF-8"
  | notDocument path fault => ticked path ++ " does not hold a structural tree: " ++ fault.message
  | emptyDocument path => ticked path ++ " holds an empty document"
  | namelessEntity => "entity name"
  | namelessEnumeration => "enumeration name"
  | noValues enumeration => "enumeration " ++ ticked enumeration ++ " has no values"
  | emptyValue enumeration => "enumeration " ++ ticked enumeration ++ " has an empty value"
  | repeatedValue enumeration value =>
    "value " ++ ticked value ++ " appears twice in enumeration " ++ ticked enumeration
  | namelessField entity => "field name in entity " ++ ticked entity
  | repeatedField entity field => "field " ++ ticked field ++ " is declared twice in entity " ++ ticked entity
  | unknownType storage entity field type =>
    ticked type ++ " is neither a " ++ storage.name ++ " type nor a declared enumeration (field " ++ ticked field ++
      " of " ++ ticked entity ++ ")"
  | clause entity field problem =>
    problem.detail ++ " (field " ++ ticked field ++ " of " ++ ticked entity ++ ")"
  | unknownCardinality name => ticked name ++ " is not a relationship cardinality"
  | namelessEnd => "relationship endpoint"
  | undeclaredEnd source target entity =>
    "in the relationship between " ++ ticked source ++ " and " ++ ticked target ++ ", " ++ ticked entity ++
      " is not declared"
  | unknownDirective name => ticked name ++ " is not an option"
  | superfluousValue topic value => "option " ++ ticked topic.name ++ " takes no value, got " ++ ticked value
  | noValue topic => "value of option " ++ ticked topic.name
  | wrongValue setting value =>
    ticked value ++ " is not a value of option " ++ ticked setting.name ++ " (expected " ++
      (match setting.values? with
        | some values => ", ".intercalate values
        | none => "a single word") ++ ")"
  | noTarget topic => "option " ++ ticked topic.name ++ " has no target entity"
  | undeclaredTarget topic entity =>
    ticked entity ++ " is targeted by option " ++ ticked topic.name ++ " but not declared"
  | undeclaredExclusion topic entity =>
    ticked entity ++ " is excluded from option " ++ ticked topic.name ++ " but not declared"

def report (p : Problem) : Report := .of p.kind (some p.detail)

def message (p : Problem) : String := p.report.message

end Problem

end EntitySchema
