import SourceLens.Value

/-!
# Outlines

An outline lists what a file declares: its functions, its classes with their methods, its imports
and its exports, each with the line where it stands.
-/
namespace SourceLens

/-- A function of a file. -/
structure FunctionEntry where
  /-- The name it is declared with or bound to. -/
  name : String
  /-- The line where it starts. -/
  line : Int
  /-- The number of characters before it on its line. -/
  column : Int
  /-- Whether it is asynchronous. -/
  isAsync : Bool
  /-- Its one-line display form. -/
  signature : String
  /-- The syntactic form of the function. -/
  form : String
  /-- The comment or text that documents it. -/
  doc : Option String
  deriving Repr, DecidableEq

namespace FunctionEntry

/-- The form of a function that is declared by a keyword. -/
def declaredForm : String := "function_declaration"

/-- Whether the function is declared by a keyword, and not bound to a variable. -/
def isDeclared (entry : FunctionEntry) : Bool := entry.form == declaredForm

/-- How the function gets its name. -/
def origin (entry : FunctionEntry) : String :=
  if entry.isDeclared then "declared" else "variable-bound"

/-- The function in results. -/
def fields (entry : FunctionEntry) : Fields :=
  [("name", .text entry.name), ("line", .int entry.line), ("column", .int entry.column),
    ("async", .bool entry.isAsync), ("signature", .text entry.signature),
    ("type", .text entry.form)] ++ Value.optionalField "jsdoc" entry.doc

end FunctionEntry

/-- A method of a class. -/
structure MethodEntry where
  /-- Its name. -/
  name : String
  /-- The line where it starts. -/
  line : Int
  /-- Whether it is asynchronous. -/
  isAsync : Bool
  /-- Whether it belongs to the class and not to its instances. -/
  isStatic : Bool
  /-- Its one-line display form. -/
  signature : String
  /-- The class it belongs to. -/
  className : String
  deriving Repr, DecidableEq

/-- The method in results. -/
def MethodEntry.fields (entry : MethodEntry) : Fields :=
  [("name", .text entry.name), ("line", .int entry.line), ("async", .bool entry.isAsync),
    ("static", .bool entry.isStatic), ("signature", .text entry.signature),
    ("class_name", .text entry.className)]

/-- A class of a file. -/
structure ClassEntry where
  /-- Its name. -/
  name : String
  /-- The line where it starts. -/
  line : Int
  /-- The number of characters before it on its line. -/
  column : Int
  /-- Its methods in order. -/
  methods : List MethodEntry
  /-- The class it extends. -/
  extends? : Option String
  /-- The comment or text that documents it. -/
  doc : Option String
  deriving Repr, DecidableEq

/-- The class in results. -/
def ClassEntry.fields (entry : ClassEntry) : Fields :=
  [("name", .text entry.name), ("line", .int entry.line), ("column", .int entry.column),
    ("methods", .list (entry.methods.map fun method => .record method.fields))] ++
    Value.optionalField "extends" entry.extends? ++ Value.optionalField "jsdoc" entry.doc

/-- An import of a file. -/
structure ImportEntry where
  /-- The module that is imported. -/
  source : String
  /-- The names that are imported from it. -/
  imported : List String
  /-- The line of the import. -/
  line : Int
  /-- The text of that line. -/
  raw : String
  deriving Repr, DecidableEq

/-- The import in results. -/
def ImportEntry.fields (entry : ImportEntry) : Fields :=
  [("source", .text entry.source), ("imported", .texts entry.imported), ("line", .int entry.line),
    ("raw", .text entry.raw)]

/-- An export of a file. -/
structure ExportEntry where
  /-- Whether it is the default export. -/
  isDefault : Bool
  /-- The line of the export. -/
  line : Int
  /-- The text of that line. -/
  raw : String
  /-- The name under which it is exported. -/
  name : Option String
  deriving Repr, DecidableEq

/-- The export in results. -/
def ExportEntry.fields (entry : ExportEntry) : Fields :=
  [("type", .text (if entry.isDefault then "default" else "named")), ("line", .int entry.line),
    ("raw", .text entry.raw)] ++ (entry.name.map fun name => ("name", Value.text name)).toList

/-- What a file declares. -/
structure Outline where
  /-- The functions outside classes. -/
  functions : List FunctionEntry
  /-- The classes. -/
  classes : List ClassEntry
  /-- The imports. -/
  imports : List ImportEntry
  /-- The exports. -/
  exports : List ExportEntry
  deriving Repr, DecidableEq

namespace Outline

/-- The outline that lists nothing. -/
def empty : Outline := ⟨[], [], [], []⟩

/-- The functions in results. -/
def functionsValue (outline : Outline) : Value :=
  .list (outline.functions.map fun entry => .record entry.fields)

/-- The classes in results. -/
def classesValue (outline : Outline) : Value :=
  .list (outline.classes.map fun entry => .record entry.fields)

/-- The imports in results. -/
def importsValue (outline : Outline) : Value :=
  .list (outline.imports.map fun entry => .record entry.fields)

/-- The exports in results. -/
def exportsValue (outline : Outline) : Value :=
  .list (outline.exports.map fun entry => .record entry.fields)

/-- The four lists in results. -/
def structureFields (outline : Outline) : Fields :=
  [("functions", outline.functionsValue), ("classes", outline.classesValue),
    ("imports", outline.importsValue), ("exports", outline.exportsValue)]

/-- The lengths of the four lists in results. -/
def statsFields (outline : Outline) : Fields :=
  [("function_count", .nat outline.functions.length), ("class_count", .nat outline.classes.length),
    ("import_count", .nat outline.imports.length), ("export_count", .nat outline.exports.length)]

end Outline

end SourceLens
