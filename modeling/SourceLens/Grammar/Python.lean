import SourceLens.Grammar
import SourceLens.Signature

/-!
# Python

Declarations in the trees of Python. Functions are declared by a keyword or bound to a variable as
lambda expressions. A decorated definition stands inside a node that also holds its decorators.
Exports are the names that a module lists in `__all__`.
-/
namespace SourceLens.Python

/-- Kinds of import statements. -/
def importStatements : List String :=
  ["import_statement", "import_from_statement", "future_import_statement"]

/-- Kinds of entries in a parameter list that are not parameters. -/
def skippedParameters : List String := ["comment", "keyword_separator", "positional_separator"]

/-- The kinds that are scopes, with the word for each. -/
def scopes : List (String × String) :=
  [("class_definition", "class"), ("function_definition", "function")]

/-- The modifiers that decorators stand for in a search. -/
def decoratorModifiers : List (String × String) :=
  [("staticmethod", "static"), ("classmethod", "classmethod"), ("property", "get")]

/-! ## String literals -/

/-- The letters that may stand before a string literal. -/
def isLiteralMark (c : Char) : Bool := "rRbBuUfF".toList.contains c

/-- The quotes, in the order in which they are tried. -/
def quotes : List (List Char) := [['"', '"', '"'], ['\x27', '\x27', '\x27'], ['"'], ['\x27']]

/-- The part of a character list before an end. -/
def before? (ending content : List Char) : Option (List Char) :=
  if ending.isSuffixOf content then some (content.take (content.length - ending.length)) else none

/-- What stands between a quote and the same quote at the end or before a last line feed. -/
def between? (quote content : List Char) : Option (List Char) :=
  if quote.isPrefixOf content then
    let body := content.drop quote.length
    (before? quote body).or (before? (quote ++ ['\n']) body)
  else none

/-- The content of a string literal; any other text stands for itself. -/
def unquote (content : String) : String :=
  let body := content.toList.dropWhile isLiteralMark
  match quotes.findSome? fun quote => between? quote body with
  | some inside => String.ofList inside
  | none => content

/-- The content of a string literal at a site. -/
def stringValue (site : Site) : Reading String := do
  let content ← site.text
  pure (unquote content)

/-! ## Parts of declarations -/

/-- The node that holds a definition together with its decorators, or the definition itself. -/
def outer (definition : Site) : Site :=
  match definition.parent? with
  | none => definition
  | some parent => if parent.kind == "decorated_definition" then parent else definition

/-- The definition inside a decorated one, or the site itself. -/
def inner (site : Site) : Site :=
  if site.kind == "decorated_definition" then (site.child? "definition").getD site else site

/-- The name of a decorator, without its arguments. -/
def decoratorName? (site : Site) : Option (Option Site) :=
  if site.kind == "decorator" then
    site.namedChildren.head?.map fun expression =>
      if expression.kind == "call" then expression.child? "function" else some expression
  else none

/-- The names of the decorators of a definition. -/
def decoratorNames (definition : Site) : Reading (List String) :=
  ((outer definition).children.filterMap decoratorName?).mapM textOr

/-- Whether a function is asynchronous. -/
def isAsync (site : Site) : Bool := site.hasChild ["async"]

/-- The site of the plain name that a parameter consists of, apart from its type. -/
def plainName? (site : Site) : Option Site :=
  if site.kind == "identifier" then some site
  else if site.kind == "typed_parameter" then
    site.namedChildren.head?.filter (·.kind == "identifier")
  else none

/-- The names of the parameters of a function. -/
def parameterNames (function : Site) : Reading (List (Option String)) :=
  match function.child? "parameters" with
  | none => pure []
  | some parameters =>
    (parameters.namedChildren.filter fun parameter =>
      !skippedParameters.contains parameter.kind).mapM fun parameter =>
        textOf? (plainName? parameter)

/-- The string literal that begins the body of a definition. -/
def docLiteral? (definition : Site) : Option Site := do
  let body ← definition.child? "body"
  let first ← (body.namedChildren.filter (·.kind != "comment")).head?
  let literal ← if first.kind == "expression_statement" then first.namedChildren.head? else none
  if literal.kind == "string" then some literal else none

/-- The text that documents a definition, without the blanks at its ends. -/
def docString (definition : Site) : Reading (Option String) :=
  match docLiteral? definition with
  | none => pure none
  | some literal => do
    let content ← stringValue literal
    pure (nonempty? (Text.strip content))

/-- The functions with a name that are declared directly in the body of a class. -/
def methods (site : Site) : List Site :=
  match site.child? "body" with
  | none => []
  | some body =>
    (body.namedChildren.map inner).filter fun method =>
      method.kind == "function_definition" && (method.child? "name").isSome

/-- Whether a definition stands directly in the body of a class. -/
def isMethod (definition : Site) : Bool :=
  match (outer definition).parent? with
  | none => false
  | some block =>
    block.kind == "block" && block.parent?.any (·.kind == "class_definition")

/-- The first base of a class that is a name or an attribute of one. -/
def superclass (site : Site) : Reading (Option String) :=
  textOf? <| (site.child? "superclasses").bind fun arguments =>
    arguments.namedChildren.find? fun argument =>
      ["identifier", "attribute"].contains argument.kind

/-- The lambda expression that an assignment binds to a plain name. -/
def boundLambda? (assignment : Site) : Option Site :=
  match assignment.child? "left", assignment.child? "right" with
  | some left, some right =>
    if left.kind == "identifier" && right.kind == "lambda" then some right else none
  | _, _ => none

/-- Whether an assignment is a statement of the module itself. -/
def isModuleLevel (assignment : Site) : Bool :=
  match assignment.parent? with
  | none => false
  | some statement =>
    statement.kind == "expression_statement" && statement.parent?.any (·.kind == "module")

mutual

/-- The names of an attribute chain, from the last to the first. -/
def chainNames : Tree → Reading (List String)
  | .node info bytes children =>
    if info.kind == "attribute" then do
      let own ← match children.find? (·.hasField "attribute") with
        | none => pure []
        | some name => do
          let content ← name.text
          pure [content]
      let rest ← fieldChain "object" children
      pure (own ++ rest)
    else if info.kind == "identifier" then do
      let content ← Text.Utf8.decode bytes
      pure [content]
    else pure []

/-- The names of the chain in the first child with a field. -/
def fieldChain (field : String) : List Tree → Reading (List String)
  | [] => pure []
  | tree :: trees => if tree.hasField field then chainNames tree else fieldChain field trees

end

mutual

/-- The dotted name of what is called, as far as it consists of names; empty when it has none. -/
def calleeName : Tree → Reading String
  | .node info bytes children =>
    if info.kind == "identifier" then Text.Utf8.decode bytes
    else if info.kind == "attribute" then do
      let names ← chainNames (.node info bytes children)
      pure (".".intercalate names.reverse)
    else if info.kind == "call" then fieldCallee "function" children
    else pure ""

/-- The dotted name in the first child with a field. -/
def fieldCallee (field : String) : List Tree → Reading String
  | [] => pure ""
  | tree :: trees => if tree.hasField field then calleeName tree else fieldCallee field trees

end

/-! ## Imports and exports -/

/-- The module that names are imported from. -/
def moduleName : Option Site → Reading String
  | none => pure "__future__"
  | some name => name.text

/-- The imports of an import statement: one for every module, or one with all the names that are
imported from a module. -/
def imports (doc : Document) (site : Site) : Reading (List ImportEntry) :=
  let line := site.startLine
  let names := site.childrenWith "name"
  if site.kind == "import_statement" then
    names.mapM fun name =>
      if name.kind == "aliased_import" then do
        let source ← textOr (name.child? "name")
        let bound ← textOr (name.child? "alias")
        pure ⟨source, [bound], line, doc.rawLine line⟩
      else do
        let source ← name.text
        pure ⟨source, [source], line, doc.rawLine line⟩
  else do
    let source ← moduleName (site.child? "module_name")
    let wildcard := if site.hasChild ["wildcard_import"] then ["*"] else []
    let listed ← names.mapM fun name =>
      if name.kind == "aliased_import" then textOr (name.child? "name") else name.text
    pure [⟨source, wildcard ++ listed, line, doc.rawLine line⟩]

/-- The exports that an assignment to `__all__` lists. -/
def listedExports (doc : Document) (assignment : Site) : Reading (List ExportEntry) :=
  match assignment.child? "left" with
  | none => pure []
  | some left => do
    let name ← left.text
    match assignment.child? "right" with
    | none => pure []
    | some right =>
      if name == "__all__" && ["list", "tuple"].contains right.kind then
        (right.namedChildren.filter (·.kind == "string")).mapM fun element => do
          let content ← stringValue element
          pure ⟨false, element.startLine, doc.rawLine element.startLine, some content⟩
      else pure []

/-- The exports that a statement of the module lists; no other assignment lists any. -/
def moduleExports (doc : Document) (assignment : Site) : Reading (List ExportEntry) :=
  if isModuleLevel assignment then listedExports doc assignment else pure []

/-! ## Outline -/

/-- The modifier of an asynchronous function. -/
def asyncModifier (site : Site) : List String := if isAsync site then ["async"] else []

/-- A declared function. -/
def declaredFunction (doc : Document) (site : Site) : Reading FunctionEntry := do
  let name ← textOr (site.child? "name")
  let names ← parameterNames site
  let documented ← docString site
  pure ⟨name, site.startLine, site.columnIn doc, isAsync site,
    Signature.named name names (asyncModifier site) (some "def"), FunctionEntry.declaredForm,
    documented⟩

/-- A lambda expression bound by an assignment. -/
def boundFunction (doc : Document) (assignment function : Site) : Reading FunctionEntry := do
  let name ← textOr (assignment.child? "left")
  let names ← parameterNames function
  let value := Text.stripRight ("lambda " ++ Signature.parameters names)
  pure ⟨name, assignment.startLine, assignment.columnIn doc, false, Signature.bound name value,
    "lambda", none⟩

/-- A method of a class. -/
def methodEntry (className : String) (site : Site) : Reading MethodEntry := do
  let name ← textOr (site.child? "name")
  let decorators ← decoratorNames site
  let isStatic := decorators.contains "staticmethod"
  let names ← parameterNames site
  let modifiers := (if isStatic then ["static"] else []) ++ asyncModifier site
  pure ⟨name, site.startLine, isAsync site, isStatic,
    Signature.named name names modifiers (some "def"), className⟩

/-- A class with its methods. -/
def classEntry (doc : Document) (site : Site) : Reading ClassEntry := do
  let name ← textOr (site.child? "name")
  let entries ← (methods site).mapM (methodEntry name)
  let extended ← superclass site
  let documented ← docString site
  pure ⟨name, site.startLine, site.columnIn doc, entries, extended, documented⟩

/-- The lines of a class, its decorators included. -/
def classSpan (site : Site) : Int × Int := ((outer site).startLine, site.endLine)

/-- What a site contributes to the outline. -/
def findings (doc : Document) (site : Site) : Reading Findings :=
  if site.kind == "class_definition" && (site.child? "name").isSome then pure (.ofClass site)
  else if site.kind == "function_definition" && (site.child? "name").isSome then do
    let entry ← declaredFunction doc site
    pure (.ofFunctions [entry])
  else if site.kind == "assignment" then
    match boundLambda? site with
    | some function => do
      let entry ← boundFunction doc site function
      pure (.ofFunctions [entry])
    | none => do
      let entries ← moduleExports doc site
      pure (.ofExports entries)
  else if site.kind == "augmented_assignment" then do
    let entries ← moduleExports doc site
    pure (.ofExports entries)
  else if importStatements.contains site.kind then do
    let entries ← imports doc site
    pure (.ofImports entries)
  else pure .none

/-- The outline of a tree. -/
def outline (tree : Tree) (doc : Document) : Reading Outline := do
  let found ← (Site.walk tree).mapM (findings doc)
  Findings.outline classSpan (classEntry doc) found

/-! ## Targets -/

/-- Whether a site is a class. -/
def isClass (site : Site) : Bool := site.kind == "class_definition"

/-- The first class with a name. -/
def findClass (tree : Tree) (name : String) : Reading (Option TargetSpan) :=
  ((Site.walk tree).filter isClass).findSomeM? fun site => do
    let own ← textOr (site.child? "name")
    pure (if own == name then
      some ⟨"class", name, (outer site).startLine, (outer site).endLine, none⟩ else none)

/-- The first method with a name among those of a class. -/
def findMethodIn (sites : List Site) (name owner : String) : Reading (Option TargetSpan) :=
  sites.findSomeM? fun method => do
    let own ← textOr (method.child? "name")
    pure (if own == name then
      some ⟨"method", name, (outer method).startLine, (outer method).endLine, some owner⟩
      else none)

/-- The first method with a name, of any class or of those with the given name. -/
def findMethod (tree : Tree) (name : String) (className : Option String) :
    Reading (Option TargetSpan) :=
  ((Site.walk tree).filter isClass).findSomeM? fun site => do
    let owner ← textOr (site.child? "name")
    if className.all (owner == ·) then findMethodIn (methods site) name owner else pure none

/-- The site of the name of a function, for a declared function and for a bound lambda
expression. -/
def functionName? (site : Site) : Option (Option Site) :=
  if site.kind == "function_definition" then some (site.child? "name")
  else if site.kind == "assignment" && (boundLambda? site).isSome then some (site.child? "left")
  else none

/-- The lines of a function, its decorators included. -/
def functionSpan (site : Site) : Int × Int :=
  if site.kind == "function_definition" then (outer site).span else site.span

/-- The first function with a name outside the spans of classes. -/
def findFunction (tree : Tree) (name : String) : Reading (Option TargetSpan) :=
  let spans := ((Site.walk tree).filter isClass).map classSpan
  (Site.walk tree).findSomeM? fun site =>
    match functionName? site with
    | none => pure none
    | some named => do
      let own ← textOr named
      let span := functionSpan site
      pure (if own == name && !Window.within site.startLine spans then
        some ⟨"function", name, span.1, span.2, none⟩ else none)

/-- The span of the first entity that a qualifier names. A function that is not found outside
classes is looked for among the methods. -/
def resolve (tree : Tree) (qualifier : Qualifier) : Reading (Option TargetSpan) :=
  match qualifier.owner.bind nonempty? with
  | some owner => findMethod tree qualifier.name (some owner)
  | none =>
    if qualifier.kind == "class" then findClass tree qualifier.name
    else if qualifier.kind == "method" then findMethod tree qualifier.name none
    else if qualifier.kind == "function" then do
      let found ← findFunction tree qualifier.name
      match found with
      | some span => pure (some span)
      | none => findMethod tree qualifier.name none
    else pure none

/-! ## Symbols -/

/-- The modifiers of a method: those its decorators stand for, and asynchrony. -/
def methodModifiers (site : Site) : Reading (List String) := do
  let decorators ← decoratorNames site
  pure (decorators.filterMap (fun name => decoratorModifiers.lookup name) ++ asyncModifier site)

/-- The modifiers of a function or method. -/
def functionModifiers (site : Site) : Reading (List String) :=
  if isMethod site then methodModifiers site else pure (asyncModifier site)

/-- The symbol of a function or method. -/
def functionSymbols (doc : Document) (site : Site) : Reading (List Symbol) :=
  match site.child? "name" with
  | none => pure []
  | some name => do
    let content ← name.text
    let modifiers ← functionModifiers site
    let documented ← docString site
    let form := if isMethod site then "class_method" else FunctionEntry.declaredForm
    let symbol ← site.symbol scopes doc content form .functions modifiers documented
    pure [symbol]

/-- The symbol of a class. -/
def classSymbols (doc : Document) (site : Site) : Reading (List Symbol) :=
  match site.child? "name" with
  | none => pure []
  | some name => do
    let content ← name.text
    let documented ← docString site
    let symbol ← site.symbol scopes doc content "class_declaration" .classes [] documented
    pure [symbol]

/-- The symbol of an export that an assignment lists. -/
def exportSymbol (entry : ExportEntry) : Symbol where
  name := entry.name.getD ""
  line := entry.line
  column := 0
  form := "export"
  category := .exports
  modifiers := []
  scope := none
  doc := none

/-- The symbols of an assignment to a plain name: the variable or function, and the exports that
it lists. -/
def assignmentSymbols (doc : Document) (site : Site) : Reading (List Symbol) :=
  match site.child? "left" with
  | none => pure []
  | some left =>
    if left.kind == "identifier" then do
      let content ← left.text
      if (boundLambda? site).isSome then do
        let symbol ← site.symbol scopes doc content "lambda" .functions [] none
        pure [symbol]
      else do
        let symbol ← site.symbol scopes doc content "variable" .bindings [] none
        let entries ← moduleExports doc site
        pure (symbol :: entries.map exportSymbol)
    else pure []

/-- The dotted name of what is called, empty when nothing is. -/
def calledName : Option Site → Reading String
  | none => pure ""
  | some function => calleeName function.tree

/-- The symbol of a call, when what is called has a name. -/
def callSymbols (doc : Document) (site : Site) : Reading (List Symbol) := do
  let callee ← calledName (site.child? "function")
  if callee.isEmpty then pure []
  else do
    let symbol ← site.symbol scopes doc callee "function_call" .calls [] none
    pure [symbol]

/-- The symbols of a site. -/
def siteSymbols (doc : Document) (site : Site) : Reading (List Symbol) :=
  if site.kind == "function_definition" then functionSymbols doc site
  else if site.kind == "class_definition" then classSymbols doc site
  else if site.kind == "assignment" then assignmentSymbols doc site
  else if importStatements.contains site.kind then do
    let entries ← imports doc site
    entries.mapM fun entry => site.symbol scopes doc entry.source "import" .imports [] none
  else if site.kind == "call" then callSymbols doc site
  else pure []

/-- The symbols of a tree in document order. -/
def symbols (tree : Tree) (doc : Document) : Reading (List Symbol) := do
  let found ← (Site.walk tree).mapM (siteSymbols doc)
  pure found.flatten

/-- The grammar of Python. -/
def grammar : Grammar := ⟨outline, resolve, symbols⟩

end SourceLens.Python
