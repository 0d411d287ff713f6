import SourceLens.Grammar
import SourceLens.Signature

/-!
# JavaScript and TypeScript

Declarations in the trees of JavaScript, TypeScript and their JSX dialects. Functions are declared
by a keyword, exported as named expressions, or bound to a variable. Modules are imported and
exported by statements, or by calls of `require` and assignments to `exports` and
`module.exports`.
-/
namespace SourceLens.EcmaScript

/-- Kinds of function declarations. -/
def functionDeclarations : List String :=
  ["function_declaration", "generator_function_declaration"]

/-- Kinds of expressions whose value is a function. -/
def functionValues : List String :=
  ["arrow_function", "function_expression", "function", "generator_function"]

/-- Kinds of class declarations. -/
def classDeclarations : List String := ["class_declaration", "abstract_class_declaration"]

/-- Kinds of class expressions. -/
def classExpressions : List String := ["class"]

/-- Kinds of fields in a class body. -/
def fieldDefinitions : List String := ["field_definition", "public_field_definition"]

/-- Kinds of variable declarations. -/
def variableDeclarations : List String := ["lexical_declaration", "variable_declaration"]

/-- Kinds of parameters with a type. -/
def typedParameters : List String := ["required_parameter", "optional_parameter"]

/-- Kinds of method names that are not computed. -/
def methodNames : List String := ["property_identifier", "private_property_identifier"]

/-- Kinds of declarations that bind exactly one name. -/
def namedDeclarations : List String :=
  functionDeclarations ++ classDeclarations ++
    ["interface_declaration", "type_alias_declaration", "enum_declaration"]

/-- Kinds of statements that a comment in front documents in place of the declaration inside. -/
def commentAnchors : List String := "export_statement" :: variableDeclarations

/-- The kinds that are scopes, with the word for each. -/
def scopes : List (String × String) :=
  [("class_declaration", "class"), ("abstract_class_declaration", "class"),
    ("function_declaration", "function"), ("generator_function_declaration", "function")]

/-! ## Parts of declarations -/

/-- Whether a function is asynchronous. -/
def isAsync (site : Site) : Bool := site.hasChild ["async"]

/-- The content of a string literal of the given kind; any other text stands for itself. -/
def unquote (kind content : String) : String :=
  if (kind == "string" || kind == "template_string") && 2 ≤ content.length then
    String.ofList (content.toList.drop 1).dropLast
  else content

/-- The content of a string literal, or the text of another node; empty when there is none. -/
def stringValue : Option Site → Reading String
  | none => pure ""
  | some site => do
    let content ← site.text
    pure (unquote site.kind content)

/-- Whether a site is a named expression that is exported. -/
def isExportedExpression (site : Site) : Bool :=
  match site.parent? with
  | none => false
  | some parent => parent.kind == "export_statement" && (site.child? "name").isSome

/-- Whether a site is a class with a name. -/
def isClass (site : Site) : Bool :=
  if classDeclarations.contains site.kind then (site.child? "name").isSome
  else classExpressions.contains site.kind && isExportedExpression site

/-- Whether a site is a function that is declared with a name. -/
def isDeclaredFunction (site : Site) : Bool :=
  if functionDeclarations.contains site.kind then (site.child? "name").isSome
  else functionValues.contains site.kind && site.kind != "arrow_function" &&
    isExportedExpression site

/-- The function that a declarator binds to a plain name. -/
def boundFunction? (declarator : Site) : Option Site :=
  match declarator.child? "name", declarator.child? "value" with
  | some name, some value =>
    if name.kind == "identifier" && functionValues.contains value.kind then some value else none
  | _, _ => none

/-- The site of the plain name that a parameter consists of, apart from its type. -/
def plainName? (site : Site) : Option Site :=
  if site.kind == "identifier" then some site
  else if typedParameters.contains site.kind && (site.child? "value").isNone then
    (site.child? "pattern").filter (·.kind == "identifier")
  else none

/-- The name of a parameter that is a plain name. -/
def simpleParameter (site : Site) : Reading (Option String) := textOf? (plainName? site)

/-- The names of the parameters of a function. -/
def parameterNames (function : Site) : Reading (List (Option String)) :=
  match function.child? "parameter", function.child? "parameters" with
  | some single, _ => do
    let name ← simpleParameter single
    pure [name]
  | none, none => pure []
  | none, some parameters =>
    (parameters.namedChildren.filter (·.kind != "comment")).mapM simpleParameter

/-- The display form of a function with a name. -/
def signature (function : Site) (name : String) : Reading String := do
  let modifiers := if isAsync function then ["async"] else []
  let names ← parameterNames function
  pure (if function.kind == "arrow_function" then Signature.arrow names modifiers
    else Signature.named name names modifiers (some "function"))

/-- The outermost statement that a comment in front would document together with the site. -/
def commentAnchor : Site → Site
  | .root tree => .root tree
  | .child parent elders tree =>
    if commentAnchors.contains parent.kind then commentAnchor parent
    else .child parent elders tree

/-- The documentation comment in front of a declaration. -/
def docComment (site : Site) : Reading (Option String) :=
  match (commentAnchor site).previousNamed? with
  | none => pure none
  | some previous =>
    if previous.kind == "comment" then do
      let content ← previous.text
      pure (if "/**".isPrefixOf content then some content else none)
    else pure none

mutual

/-- The names that a pattern binds, from left to right: the names reached without going into the
key of a pair or the default of an assignment. -/
def bindingNames : Tree → Reading (List String)
  | .node info bytes children =>
    if info.kind == "identifier" || info.kind == "shorthand_property_identifier_pattern" then do
      let content ← Text.Utf8.decode bytes
      pure [content]
    else if info.kind == "pair_pattern" then fieldBindings "value" children
    else if info.kind == "assignment_pattern" || info.kind == "object_assignment_pattern" then
      fieldBindings "left" children
    else allBindings children

/-- The names that the first child with a field binds. -/
def fieldBindings (field : String) : List Tree → Reading (List String)
  | [] => pure []
  | tree :: trees =>
    if tree.hasField field then bindingNames tree else fieldBindings field trees

/-- The names that the children which stand for constructs bind. -/
def allBindings : List Tree → Reading (List String)
  | [] => pure []
  | tree :: trees =>
    if tree.named then do
      let names ← bindingNames tree
      let rest ← allBindings trees
      pure (names ++ rest)
    else allBindings trees

end

/-- The names that a pattern binds, none when there is no pattern. -/
def boundNames : Option Site → Reading (List String)
  | none => pure []
  | some site => bindingNames site.tree

/-- The expression that a heritage extends: the value or the first construct of its clause, or its
own first construct. -/
def extended? (heritage : Site) : Option Site :=
  match heritage.childOfKind? ["extends_clause"] with
  | some clause => (clause.child? "value").or clause.namedChildren.head?
  | none => heritage.namedChildren.head?

/-- The class that a class extends, when it is a name or a member of one. -/
def superclass (site : Site) : Reading (Option String) :=
  match (site.childOfKind? ["class_heritage"]).bind extended? with
  | none => pure none
  | some expression =>
    if ["identifier", "member_expression", "type_identifier"].contains expression.kind then
      textOf? (some expression)
    else pure none

/-- A member of a class with a function-like body. -/
structure Member where
  /-- Its name. -/
  name : String
  /-- The site of the member. -/
  site : Site
  /-- The site of its function: the member itself or the value of a field. -/
  function : Site
  /-- Whether it belongs to the class and not to its instances. -/
  isStatic : Bool
  /-- Whether it is asynchronous. -/
  isAsync : Bool
  /-- The modifiers it carries. -/
  modifiers : List String

/-- The name and the function of a class member, when it has both. -/
def memberParts? (site : Site) : Option (Site × Site) :=
  if site.kind == "method_definition" then
    match site.child? "name" with
    | some name => if methodNames.contains name.kind then some (name, site) else none
    | none => none
  else if fieldDefinitions.contains site.kind then
    match (site.child? "property").or (site.child? "name"), site.child? "value" with
    | some name, some value => if functionValues.contains value.kind then some (name, value) else none
    | _, _ => none
  else none

/-- The member at a site of a class body, if it has a function-like body. -/
def member? (site : Site) : Reading (Option Member) :=
  match memberParts? site with
  | none => pure none
  | some (name, function) => do
    let isStatic := site.tree.children.any fun child => "static".isPrefixOf child.kind
    let asynchronous := isAsync function
    let access ← textsOf (site.childOfKind? ["accessibility_modifier"])
    let modifiers := (if isStatic then ["static"] else []) ++
      (if asynchronous then ["async"] else []) ++ access ++
      ["get", "set"].filter fun kind => site.hasChild [kind]
    let content ← name.text
    pure (some ⟨content, site, function, isStatic, asynchronous, modifiers⟩)

/-- The members of a class with a function-like body, in order. -/
def members (site : Site) : Reading (List Member) :=
  match site.child? "body" with
  | none => pure []
  | some body => body.namedChildren.filterMapM member?

/-- The display form of a member. -/
def memberSignature (member : Member) : Reading String := do
  let names ← parameterNames member.function
  let modifiers := ["static", "async", "get", "set"].filter member.modifiers.contains
  pure (Signature.named member.name names modifiers none)

/-- The first line of a member, the decorators in front of it included. -/
def memberStart (site : Site) : Int :=
  let decorators := (site.elders.filter (·.named)).takeWhile (·.kind == "decorator")
  match decorators.getLast? with
  | none => site.startLine
  | some first => first.startLine

/-! ## Imports and exports -/

/-- The name of what a default export exports. -/
def defaultExportName : Option Site → Reading (Option String)
  | none => pure none
  | some target =>
    if target.kind == "identifier" then textOf? (some target)
    else if (functionDeclarations ++ functionValues ++ classDeclarations ++
        classExpressions).contains target.kind then textOf? (target.child? "name")
    else pure none

/-- The names that an exported declaration declares. -/
def declaredNames (declaration : Site) : Reading (List String) :=
  if namedDeclarations.contains declaration.kind then
    match declaration.child? "name" with
    | none => pure []
    | some name => do
      let content ← name.text
      pure [content]
  else if variableDeclarations.contains declaration.kind then do
    let declarators := declaration.namedChildren.filter (·.kind == "variable_declarator")
    let names ← declarators.mapM fun declarator => boundNames (declarator.child? "name")
    pure names.flatten
  else pure []

/-- Whether a site is an identifier with the given text. -/
def isIdentifier (name : String) (site : Site) : Reading Bool :=
  if site.kind == "identifier" then do
    let content ← site.text
    pure (content == name)
  else pure false

/-- Whether a site is the member `exports` of `module`. -/
def isModuleExports (site : Site) : Reading Bool :=
  match site.child? "object" with
  | none => pure false
  | some object =>
    if site.kind == "member_expression" then do
      let owned ← isIdentifier "module" object
      if owned then
        let property ← textOr (site.child? "property")
        pure (property == "exports")
      else pure false
    else pure false

/-- The key of a property of an object literal. -/
def objectKey (property : Site) : Reading (Option String) :=
  if property.kind == "shorthand_property_identifier" then do
    let content ← property.text
    pure (nonempty? content)
  else if property.kind == "pair" then do
    let content ← stringValue (property.child? "key")
    pure (nonempty? content)
  else if property.kind == "method_definition" then do
    let content ← textOr (property.child? "name")
    pure (nonempty? content)
  else pure none

/-- The first argument of a call, when it is a string literal. -/
def literalArgument? (call : Site) : Option Site := do
  let arguments ← call.child? "arguments"
  let first ← (arguments.namedChildren.filter (·.kind != "comment")).head?
  if first.kind == "string" then some first else none

/-- The string literal in a call of `require`. -/
def requireLiteral (call : Site) : Reading (Option Site) :=
  match call.child? "function" with
  | none => pure none
  | some function => do
    let required ← isIdentifier "require" function
    pure (if required then literalArgument? call else none)

mutual

/-- The dotted name of what is called, as far as it consists of names. -/
def calleeName : Tree → Reading String
  | .node info bytes children =>
    if info.kind == "identifier" then Text.Utf8.decode bytes
    else if info.kind == "member_expression" then do
      let object ← fieldCallee "object" children
      let property ← match children.find? (·.hasField "property") with
        | none => pure ""
        | some property => property.text
      pure (if object.isEmpty then property else if property.isEmpty then object
        else object ++ "." ++ property)
    else pure ""

/-- The dotted name in the first child with a field. -/
def fieldCallee (field : String) : List Tree → Reading String
  | [] => pure ""
  | tree :: trees => if tree.hasField field then calleeName tree else fieldCallee field trees

end

/-- The name of the variable or variables that a clause of an import statement binds. -/
def importedNames (site : Site) : Reading (List String) :=
  if site.kind == "identifier" then do
    let content ← site.text
    pure [content]
  else if site.kind == "namespace_import" then do
    let content ← textOr (site.childOfKind? ["identifier"])
    pure ["* as " ++ content]
  else if site.kind == "named_imports" then
    (site.namedChildren.filter (·.kind == "import_specifier")).mapM fun specifier =>
      stringValue (specifier.child? "name")
  else pure []

/-- The names that the clause of an import statement binds, none when there is no clause. -/
def clauseImports : Option Site → Reading (List String)
  | none => pure []
  | some clause => do
    let names ← clause.namedChildren.mapM importedNames
    pure names.flatten

/-- An import statement. -/
def importStatement (doc : Document) (site : Site) : Reading ImportEntry := do
  let required := site.childOfKind? ["import_require_clause"]
  let source := match required with
    | none => site.child? "source"
    | some clause => (clause.child? "source").or (clause.childOfKind? ["string"])
  let bound ← textsOf (required.bind (·.childOfKind? ["identifier"]))
  let listed ← clauseImports (site.childOfKind? ["import_clause"])
  let content ← stringValue source
  pure ⟨content, bound ++ listed, site.startLine, doc.rawLine site.startLine⟩

/-- The names that the result of a call is bound to by a declarator around it. -/
def resultNames (call : Site) : Reading (List String) :=
  match call.parent? with
  | none => pure []
  | some parent =>
    if parent.kind == "variable_declarator" then boundNames (parent.child? "name") else pure []

/-- An import by a call of `require`, under the names that the call is bound to. -/
def requireImport (doc : Document) (call : Site) : Reading (Option ImportEntry) := do
  let literal ← requireLiteral call
  match literal with
  | none => pure none
  | some literal => do
    let names ← resultNames call
    let source ← stringValue (some literal)
    let imported := if names.isEmpty then ["unknown"] else names
    pure (some ⟨source, imported, call.startLine, doc.rawLine call.startLine⟩)

/-- An export on the first line of a site. -/
def exportAt (doc : Document) (site : Site) (isDefault : Bool) (name : Option String) :
    ExportEntry :=
  ⟨isDefault, site.startLine, doc.rawLine site.startLine, name⟩

/-- The names that an export statement without a default and without a declaration exports; none
when it has no clause of names. -/
def clauseNames (site : Site) : Reading (Option (List String)) :=
  match site.childOfKind? ["export_clause"], site.childOfKind? ["namespace_export"] with
  | some clause, _ => do
    let specifiers := clause.namedChildren.filter (·.kind == "export_specifier")
    let names ← specifiers.mapM fun specifier =>
      stringValue ((specifier.child? "alias").or (specifier.child? "name"))
    pure (some names)
  | none, some clause =>
    match (clause.namedChildren.filter (·.kind != "comment")).head? with
    | none => pure (some ["*"])
    | some name => do
      let content ← stringValue (some name)
      pure (some [content])
  | none, none => pure (if site.hasChild ["*"] then some ["*"] else none)

/-- The value that an export assignment exports. -/
def assignedExport? (site : Site) : Option Site :=
  (site.namedChildren.filter fun child =>
    child.kind != "comment" && child.kind != "decorator").head?

/-- The exports of an export statement. -/
def exportStatement (doc : Document) (site : Site) : Reading (List ExportEntry) :=
  if site.hasChild ["default"] then do
    let name ← defaultExportName ((site.child? "declaration").or (site.child? "value"))
    pure [exportAt doc site true name]
  else
    match site.child? "declaration" with
    | some declaration => do
      let names ← declaredNames declaration
      pure (names.map fun name => exportAt doc site false (some name))
    | none => do
      let clause ← clauseNames site
      match clause with
      | some names => pure (names.map fun name => exportAt doc site false (some name))
      | none =>
        if site.hasChild ["="] then do
          let name ← defaultExportName (assignedExport? site)
          pure [exportAt doc site true name]
        else pure []

/-- Whether a site is `exports` or `module.exports`. -/
def isExportsObject : Option Site → Reading Bool
  | none => pure false
  | some site =>
    if site.kind == "identifier" then isIdentifier "exports" site else isModuleExports site

/-- The exports that an assignment to `module.exports` makes: the keys of an object, or another
value as the default. -/
def moduleExports (doc : Document) (site value : Site) : Reading (List ExportEntry) :=
  if value.kind == "object" then
    value.namedChildren.filterMapM fun property => do
      let key ← objectKey property
      pure (key.map fun key => exportAt doc property false (some key))
  else do
    let name ← defaultExportName (some value)
    pure [exportAt doc site true name]

/-- The exports that an assignment makes: a member of `exports` or `module.exports`, or those of
`module.exports` itself. -/
def assignmentExports (doc : Document) (site : Site) : Reading (List ExportEntry) :=
  match site.child? "left", site.child? "right" with
  | some left, some right =>
    if left.kind == "member_expression" then do
      let property ← textOr (left.child? "property")
      let member ← isExportsObject (left.child? "object")
      if member then pure [exportAt doc site false (some property)]
      else do
        let whole ← isModuleExports left
        if whole then moduleExports doc site right else pure []
    else pure []
  | _, _ => pure []

/-! ## Outline -/

/-- A declared function. -/
def declaredFunction (doc : Document) (site : Site) : Reading FunctionEntry := do
  let name ← textOr (site.child? "name")
  let signature ← signature site name
  let documented ← docComment site
  pure ⟨name, site.startLine, site.columnIn doc, isAsync site, signature,
    FunctionEntry.declaredForm, documented⟩

/-- The form of a function that is bound to a variable. -/
def boundForm (function : Site) : String :=
  if function.kind == "arrow_function" then "arrow_function" else "function_expression"

/-- A function bound by a declarator. -/
def boundFunction (doc : Document) (declarator function : Site) : Reading FunctionEntry := do
  let name ← textOr (declarator.child? "name")
  let own ← textOr (function.child? "name")
  let value ← signature function own
  let documented ← docComment declarator
  pure ⟨name, declarator.startLine, declarator.columnIn doc, isAsync function,
    Signature.bound name value, boundForm function, documented⟩

/-- A class with its methods. -/
def classEntry (doc : Document) (site : Site) : Reading ClassEntry := do
  let name ← textOr (site.child? "name")
  let members ← members site
  let methods ← members.mapM fun member => do
    let signature ← memberSignature member
    pure (⟨member.name, member.site.startLine, member.isAsync, member.isStatic, signature, name⟩ :
      MethodEntry)
  let extended ← superclass site
  let documented ← docComment site
  pure ⟨name, site.startLine, site.columnIn doc, methods, extended, documented⟩

/-- What a site contributes to the outline. -/
def findings (doc : Document) (site : Site) : Reading Findings :=
  if isClass site then pure (.ofClass site)
  else if isDeclaredFunction site then do
    let entry ← declaredFunction doc site
    pure (.ofFunctions [entry])
  else if site.kind == "variable_declarator" then
    match boundFunction? site with
    | none => pure .none
    | some function => do
      let entry ← boundFunction doc site function
      pure (.ofFunctions [entry])
  else if site.kind == "import_statement" then do
    let entry ← importStatement doc site
    pure (.ofImports [entry])
  else if site.kind == "call_expression" then do
    let entry ← requireImport doc site
    pure (.ofImports entry.toList)
  else if site.kind == "export_statement" then do
    let entries ← exportStatement doc site
    pure (.ofExports entries)
  else if site.kind == "assignment_expression" then do
    let entries ← assignmentExports doc site
    pure (.ofExports entries)
  else pure .none

/-- The outline of a tree. -/
def outline (tree : Tree) (doc : Document) : Reading Outline := do
  let found ← (Site.walk tree).mapM (findings doc)
  Findings.outline Site.span (classEntry doc) found

/-! ## Targets -/

/-- The first class with a name. -/
def findClass (tree : Tree) (name : String) : Reading (Option TargetSpan) :=
  ((Site.walk tree).filter isClass).findSomeM? fun site => do
    let own ← textOr (site.child? "name")
    pure (if own == name then some ⟨"class", name, site.startLine, site.endLine, none⟩ else none)

/-- The first member with a name, of any class or of those with the given name. -/
def findMember (tree : Tree) (name : String) (className : Option String) :
    Reading (Option TargetSpan) :=
  ((Site.walk tree).filter isClass).findSomeM? fun site => do
    let owner ← textOr (site.child? "name")
    if className.all (owner == ·) then
      let members ← members site
      pure <| (members.find? (·.name == name)).map fun member =>
        ⟨"method", name, memberStart member.site, member.site.endLine, some owner⟩
    else pure none

/-- Whether a site is a function with a name of its own or of a variable. -/
def isFunctionSite (site : Site) : Bool :=
  isDeclaredFunction site || (site.kind == "variable_declarator" && (boundFunction? site).isSome)

/-- The first function with a name outside the spans of classes. -/
def findFunction (tree : Tree) (name : String) : Reading (Option TargetSpan) :=
  let spans := ((Site.walk tree).filter isClass).map Site.span
  ((Site.walk tree).filter isFunctionSite).findSomeM? fun site => do
    let own ← textOr (site.child? "name")
    pure (if own == name && !Window.within site.startLine spans then
      some ⟨"function", name, site.startLine, site.endLine, none⟩ else none)

/-- The span of the first entity that a qualifier names. A function that is not found outside
classes is looked for among the members. -/
def resolve (tree : Tree) (qualifier : Qualifier) : Reading (Option TargetSpan) :=
  match qualifier.owner.bind nonempty? with
  | some owner => findMember tree qualifier.name (some owner)
  | none =>
    if qualifier.kind == "class" then findClass tree qualifier.name
    else if qualifier.kind == "method" then findMember tree qualifier.name none
    else if qualifier.kind == "function" then do
      let found ← findFunction tree qualifier.name
      match found with
      | some span => pure (some span)
      | none => findMember tree qualifier.name none
    else pure none

/-! ## Symbols -/

/-- Whether a declaration stands in an export statement. -/
def isExported : Site → Bool
  | .root _ => false
  | .child parent _ _ =>
    if variableDeclarations.contains parent.kind then isExported parent
    else parent.kind == "export_statement"

/-- The keyword of the declaration that a declarator belongs to. -/
def declarationKeyword (declarator : Site) : Reading (List String) :=
  match declarator.parent? with
  | none => pure []
  | some parent =>
    if variableDeclarations.contains parent.kind then
      match parent.tree.children.head? with
      | none => pure []
      | some keyword => do
        let content ← keyword.text
        pure (nonempty? content).toList
    else pure []

/-- The modifier of an exported declaration. -/
def exportModifier (site : Site) : List String := if isExported site then ["export"] else []

/-- The modifier of an asynchronous function. -/
def asyncModifier (site : Site) : List String := if isAsync site then ["async"] else []

/-- The symbol of a declared function. -/
def functionSymbol (doc : Document) (site : Site) : Reading Symbol := do
  let name ← textOr (site.child? "name")
  let documented ← docComment site
  site.symbol scopes doc name FunctionEntry.declaredForm .functions
    (asyncModifier site ++ exportModifier site) documented

/-- The symbol of a declarator with the given name and keyword: of the function that it binds, or of
the variable. -/
def boundSymbol (doc : Document) (site : Site) (keyword : List String) (name : String)
    (documented : Option String) : Reading Symbol :=
  match boundFunction? site with
  | none =>
    site.symbol scopes doc name "variable" .bindings (keyword ++ exportModifier site) documented
  | some function =>
    site.symbol scopes doc name (boundForm function) .functions
      (keyword ++ asyncModifier function ++ exportModifier site) documented

/-- The symbol of a declarator with a plain name. -/
def variableSymbols (doc : Document) (site : Site) : Reading (List Symbol) :=
  match site.child? "name" with
  | none => pure []
  | some name =>
    if name.kind != "identifier" then pure []
    else do
      let keyword ← declarationKeyword site
      let content ← name.text
      let documented ← docComment site
      let symbol ← boundSymbol doc site keyword content documented
      pure [symbol]

/-- The symbols of a class and its members. -/
def classSymbols (doc : Document) (site : Site) : Reading (List Symbol) := do
  let name ← textOr (site.child? "name")
  let documented ← docComment site
  let symbol ← site.symbol scopes doc name "class_declaration" .classes (exportModifier site)
    documented
  let members ← members site
  let methods ← members.mapM fun member => do
    let documented ← docComment member.site
    member.site.symbol scopes doc member.name "class_method" .functions member.modifiers documented
  pure (symbol :: methods)

/-- The symbol of the import that a call of `require` makes. -/
def requireSymbols (doc : Document) (site : Site) : Reading (List Symbol) := do
  let literal ← requireLiteral site
  match literal with
  | none => pure []
  | some literal => do
    let source ← stringValue (some literal)
    let symbol ← site.symbol scopes doc source "commonjs_import" .imports [] none
    pure [symbol]

/-- The dotted name of what is called, empty when nothing is. -/
def calledName : Option Site → Reading String
  | none => pure ""
  | some function => calleeName function.tree

/-- The symbols of a call: the import it makes, and the name it calls. -/
def callSymbols (doc : Document) (site : Site) : Reading (List Symbol) := do
  let imported ← requireSymbols doc site
  let callee ← calledName (site.child? "function")
  if callee.isEmpty then pure imported
  else do
    let call ← site.symbol scopes doc callee "function_call" .calls [] none
    pure (imported ++ [call])

/-- The name of an export in a search. -/
def exportName (entry : ExportEntry) : String := (entry.name.bind nonempty?).getD "default"

/-- The symbols of a site. -/
def siteSymbols (doc : Document) (site : Site) : Reading (List Symbol) :=
  if isDeclaredFunction site then do
    let symbol ← functionSymbol doc site
    pure [symbol]
  else if site.kind == "variable_declarator" then variableSymbols doc site
  else if isClass site then classSymbols doc site
  else if site.kind == "import_statement" then do
    let entry ← importStatement doc site
    let symbol ← site.symbol scopes doc entry.source "import" .imports [] none
    pure [symbol]
  else if site.kind == "call_expression" then callSymbols doc site
  else if site.kind == "export_statement" then do
    let entries ← exportStatement doc site
    entries.mapM fun entry =>
      site.symbol scopes doc (exportName entry) "export" .exports [] none
  else if site.kind == "assignment_expression" then do
    let entries ← assignmentExports doc site
    pure <| entries.map fun entry =>
      { name := exportName entry
        line := entry.line
        column := if entry.line = site.startLine then site.columnIn doc else 0
        form := "commonjs_export"
        category := .exports
        modifiers := []
        scope := none
        doc := none }
  else pure []

/-- The symbols of a tree in document order. -/
def symbols (tree : Tree) (doc : Document) : Reading (List Symbol) := do
  let found ← (Site.walk tree).mapM (siteSymbols doc)
  pure found.flatten

/-- The grammar of JavaScript, TypeScript and their JSX dialects. -/
def grammar : Grammar := ⟨outline, resolve, symbols⟩

end SourceLens.EcmaScript
