/-!
Kinds of syntax nodes and the roles that nodes play in their parents.
-/

namespace SnippetBridge.TypeScript

inductive Kind where
  /-- White space between tokens. -/
  | blank
  | comment
  /-- Punctuation and keywords. -/
  | mark
  | hashBangLine
  | identifier
  | undefined
  | propertyIdentifier
  | privatePropertyIdentifier
  | shorthandPropertyIdentifier
  | shorthandPropertyIdentifierPattern
  | statementIdentifier
  | optionalChain
  | number
  | string
  | stringFragment
  | escapeSequence
  | templateString
  | templateSubstitution
  | regex
  | trueLiteral
  | falseLiteral
  | nullLiteral
  | this
  | superKeyword
  | importKeyword
  | metaProperty
  | parenthesizedExpression
  | functionExpression
  | generatorFunction
  | arrowFunction
  | classExpression
  | object
  | array
  | pair
  | spreadElement
  | methodDefinition
  | computedPropertyName
  | arguments
  | memberExpression
  | subscriptExpression
  | callExpression
  | newExpression
  | nonNullExpression
  | instantiationExpression
  | unaryExpression
  | updateExpression
  | binaryExpression
  | ternaryExpression
  | assignmentExpression
  | augmentedAssignmentExpression
  | sequenceExpression
  | awaitExpression
  | yieldExpression
  | asExpression
  | satisfiesExpression
  | typeAssertion
  | internalModule
  | formalParameters
  | requiredParameter
  | optionalParameter
  | objectPattern
  | arrayPattern
  | pairPattern
  | restPattern
  | assignmentPattern
  | objectAssignmentPattern
  /-- A type, a type annotation or a list of type parameters. -/
  | typeNode
  /-- The body of a class, an enumeration or a `switch`. -/
  | body
  /-- A part of an import, of an export or of a compound statement. -/
  | clause
  | program
  | emptyStatement
  | expressionStatement
  | lexicalDeclaration
  | variableDeclaration
  | variableDeclarator
  | functionDeclaration
  | generatorFunctionDeclaration
  | functionSignature
  | classDeclaration
  | abstractClassDeclaration
  | interfaceDeclaration
  | typeAliasDeclaration
  | enumDeclaration
  | ambientDeclaration
  | moduleDeclaration
  | importStatement
  | importAlias
  | exportStatement
  | statementBlock
  | ifStatement
  | forStatement
  | forInStatement
  | whileStatement
  | doStatement
  | switchStatement
  | tryStatement
  | throwStatement
  | returnStatement
  | breakStatement
  | continueStatement
  | debuggerStatement
  | labeledStatement
  | withStatement
  deriving DecidableEq

namespace Kind

/-- The name by which a tree refers to the kind of a node. -/
def name : Kind → String
  | .blank => "blank"
  | .comment => "comment"
  | .mark => "mark"
  | .hashBangLine => "hash_bang_line"
  | .identifier => "identifier"
  | .undefined => "undefined"
  | .propertyIdentifier => "property_identifier"
  | .privatePropertyIdentifier => "private_property_identifier"
  | .shorthandPropertyIdentifier => "shorthand_property_identifier"
  | .shorthandPropertyIdentifierPattern => "shorthand_property_identifier_pattern"
  | .statementIdentifier => "statement_identifier"
  | .optionalChain => "optional_chain"
  | .number => "number"
  | .string => "string"
  | .stringFragment => "string_fragment"
  | .escapeSequence => "escape_sequence"
  | .templateString => "template_string"
  | .templateSubstitution => "template_substitution"
  | .regex => "regex"
  | .trueLiteral => "true"
  | .falseLiteral => "false"
  | .nullLiteral => "null"
  | .this => "this"
  | .superKeyword => "super"
  | .importKeyword => "import"
  | .metaProperty => "meta_property"
  | .parenthesizedExpression => "parenthesized_expression"
  | .functionExpression => "function_expression"
  | .generatorFunction => "generator_function"
  | .arrowFunction => "arrow_function"
  | .classExpression => "class"
  | .object => "object"
  | .array => "array"
  | .pair => "pair"
  | .spreadElement => "spread_element"
  | .methodDefinition => "method_definition"
  | .computedPropertyName => "computed_property_name"
  | .arguments => "arguments"
  | .memberExpression => "member_expression"
  | .subscriptExpression => "subscript_expression"
  | .callExpression => "call_expression"
  | .newExpression => "new_expression"
  | .nonNullExpression => "non_null_expression"
  | .instantiationExpression => "instantiation_expression"
  | .unaryExpression => "unary_expression"
  | .updateExpression => "update_expression"
  | .binaryExpression => "binary_expression"
  | .ternaryExpression => "ternary_expression"
  | .assignmentExpression => "assignment_expression"
  | .augmentedAssignmentExpression => "augmented_assignment_expression"
  | .sequenceExpression => "sequence_expression"
  | .awaitExpression => "await_expression"
  | .yieldExpression => "yield_expression"
  | .asExpression => "as_expression"
  | .satisfiesExpression => "satisfies_expression"
  | .typeAssertion => "type_assertion"
  | .internalModule => "internal_module"
  | .formalParameters => "formal_parameters"
  | .requiredParameter => "required_parameter"
  | .optionalParameter => "optional_parameter"
  | .objectPattern => "object_pattern"
  | .arrayPattern => "array_pattern"
  | .pairPattern => "pair_pattern"
  | .restPattern => "rest_pattern"
  | .assignmentPattern => "assignment_pattern"
  | .objectAssignmentPattern => "object_assignment_pattern"
  | .typeNode => "type"
  | .body => "body"
  | .clause => "clause"
  | .program => "program"
  | .emptyStatement => "empty_statement"
  | .expressionStatement => "expression_statement"
  | .lexicalDeclaration => "lexical_declaration"
  | .variableDeclaration => "variable_declaration"
  | .variableDeclarator => "variable_declarator"
  | .functionDeclaration => "function_declaration"
  | .generatorFunctionDeclaration => "generator_function_declaration"
  | .functionSignature => "function_signature"
  | .classDeclaration => "class_declaration"
  | .abstractClassDeclaration => "abstract_class_declaration"
  | .interfaceDeclaration => "interface_declaration"
  | .typeAliasDeclaration => "type_alias_declaration"
  | .enumDeclaration => "enum_declaration"
  | .ambientDeclaration => "ambient_declaration"
  | .moduleDeclaration => "module"
  | .importStatement => "import_statement"
  | .importAlias => "import_alias"
  | .exportStatement => "export_statement"
  | .statementBlock => "statement_block"
  | .ifStatement => "if_statement"
  | .forStatement => "for_statement"
  | .forInStatement => "for_in_statement"
  | .whileStatement => "while_statement"
  | .doStatement => "do_statement"
  | .switchStatement => "switch_statement"
  | .tryStatement => "try_statement"
  | .throwStatement => "throw_statement"
  | .returnStatement => "return_statement"
  | .breakStatement => "break_statement"
  | .continueStatement => "continue_statement"
  | .debuggerStatement => "debugger_statement"
  | .labeledStatement => "labeled_statement"
  | .withStatement => "with_statement"

/-- Whether nodes of a kind only stand between the parts of their parent. -/
def isTrivia (kind : Kind) : Bool := kind == .blank || kind == .comment

/-- Whether nodes of a kind are parts of their parent that have a meaning of their own. -/
def isPart (kind : Kind) : Bool := !kind.isTrivia && kind != .mark

end Kind

/-- What a node is to its parent. -/
inductive Role where
  | plain
  | parameter
  | parameters
  | pattern
  | value
  | left
  | right
  | key
  | name
  | object
  | property
  deriving DecidableEq

end SnippetBridge.TypeScript
