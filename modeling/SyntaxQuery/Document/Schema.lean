import SyntaxQuery.Document.Node

/-!
Contract: which fields of a document's nodes hold their children.

Owns: the table of the standard ESTree node types, its extension and overriding, and the two ways to
treat a type that is not in it.
Does not own: where extensions come from.
-/

namespace SyntaxQuery

/-- The child fields of the standard ESTree node types, in the order of their source text. -/
def standardVisitorKeys : List (String × List String) :=
  [("AssignmentExpression", ["left", "right"]),
   ("AssignmentPattern", ["left", "right"]),
   ("ArrayExpression", ["elements"]),
   ("ArrayPattern", ["elements"]),
   ("ArrowFunctionExpression", ["params", "body"]),
   ("AwaitExpression", ["argument"]),
   ("BlockStatement", ["body"]),
   ("BinaryExpression", ["left", "right"]),
   ("BreakStatement", ["label"]),
   ("CallExpression", ["callee", "arguments"]),
   ("CatchClause", ["param", "body"]),
   ("ChainExpression", ["expression"]),
   ("ClassBody", ["body"]),
   ("ClassDeclaration", ["id", "superClass", "body"]),
   ("ClassExpression", ["id", "superClass", "body"]),
   ("ConditionalExpression", ["test", "consequent", "alternate"]),
   ("ContinueStatement", ["label"]),
   ("DebuggerStatement", []),
   ("DoWhileStatement", ["body", "test"]),
   ("EmptyStatement", []),
   ("ExportAllDeclaration", ["exported", "source"]),
   ("ExportDefaultDeclaration", ["declaration"]),
   ("ExportNamedDeclaration", ["declaration", "specifiers", "source"]),
   ("ExportSpecifier", ["exported", "local"]),
   ("ExpressionStatement", ["expression"]),
   ("ForStatement", ["init", "test", "update", "body"]),
   ("ForInStatement", ["left", "right", "body"]),
   ("ForOfStatement", ["left", "right", "body"]),
   ("FunctionDeclaration", ["id", "params", "body"]),
   ("FunctionExpression", ["id", "params", "body"]),
   ("Identifier", []),
   ("IfStatement", ["test", "consequent", "alternate"]),
   ("ImportExpression", ["source"]),
   ("ImportDeclaration", ["specifiers", "source"]),
   ("ImportDefaultSpecifier", ["local"]),
   ("ImportNamespaceSpecifier", ["local"]),
   ("ImportSpecifier", ["imported", "local"]),
   ("Literal", []),
   ("LabeledStatement", ["label", "body"]),
   ("LogicalExpression", ["left", "right"]),
   ("MemberExpression", ["object", "property"]),
   ("MetaProperty", ["meta", "property"]),
   ("MethodDefinition", ["key", "value"]),
   ("NewExpression", ["callee", "arguments"]),
   ("ObjectExpression", ["properties"]),
   ("ObjectPattern", ["properties"]),
   ("PrivateIdentifier", []),
   ("Program", ["body"]),
   ("Property", ["key", "value"]),
   ("PropertyDefinition", ["key", "value"]),
   ("RestElement", ["argument"]),
   ("ReturnStatement", ["argument"]),
   ("SequenceExpression", ["expressions"]),
   ("SpreadElement", ["argument"]),
   ("StaticBlock", ["body"]),
   ("Super", []),
   ("SwitchStatement", ["discriminant", "cases"]),
   ("SwitchCase", ["test", "consequent"]),
   ("TaggedTemplateExpression", ["tag", "quasi"]),
   ("TemplateElement", []),
   ("TemplateLiteral", ["quasis", "expressions"]),
   ("ThisExpression", []),
   ("ThrowStatement", ["argument"]),
   ("TryStatement", ["block", "handler", "finalizer"]),
   ("UnaryExpression", ["argument"]),
   ("UpdateExpression", ["argument"]),
   ("VariableDeclaration", ["declarations"]),
   ("VariableDeclarator", ["id", "init"]),
   ("WhileStatement", ["test", "body"]),
   ("WithStatement", ["object", "body"]),
   ("YieldExpression", ["argument"])]

/-- The child fields by node type, an earlier entry hiding a later one of the same type, and what
happens to other types. -/
structure DocumentSchema where
  visitorKeys : List (String × List String)
  fallback : Fallback

namespace DocumentSchema

/-- The standard table; nodes of other types are searched field by field. -/
def standard : DocumentSchema :=
  ⟨standardVisitorKeys, .iteration⟩

/-- The schema with another treatment of types that are not in its table. -/
def withFallback (schema : DocumentSchema) (fallback : Fallback) : DocumentSchema :=
  { schema with fallback := fallback }

/-- The schema with further entries, of which a later one overrides an earlier one. -/
def withVisitorKeys (schema : DocumentSchema) (entries : List (String × List String)) :
    DocumentSchema :=
  { schema with visitorKeys := entries.reverse ++ schema.visitorKeys }

/-- The child fields that the table names for a type. -/
def keysOf? (schema : DocumentSchema) (kind : String) : Option (List String) :=
  schema.visitorKeys.lookup kind

/-- The fields of a record that hold a syntax node or a list, in the order of the document. -/
def heldFields (record : Json) : List String :=
  match record with
  | .object members =>
      (members.filter fun (_, value) => value.array?.isSome || value.isSyntaxNode).map Prod.fst
  | _ => []

/-- The child fields of a node: those of the table, or by the fallback. -/
def childFields (schema : DocumentSchema) : Schema DocumentNode := fun node =>
  match schema.keysOf? node.kind with
  | some fields => .ok fields
  | none =>
      match schema.fallback with
      | .strict => .error ⟨node.kind⟩
      | .iteration => .ok (heldFields node.value)

end DocumentSchema

end SyntaxQuery
