/-!
# Tokens and phrases

A source is a sequence of tokens, and phrases are built from tokens and other
phrases. Keywords and punctuation are tokens known by their spelling; the layout
of the source gives tokens of its own, for the end of a line and for a change of
the indentation.

Some tokens and phrases only help to put the source together and do not show in
its tree: their parts stand directly in the phrase around them. A phrase can
also show under another name than its own, so a node of the tree has a `Kind`
that need not be the phrase it was read by.
-/

set_option autoImplicit false

namespace Hygiene.Python

/-- The tokens of a source. -/
inductive Token where
  /-- The end of a logical line. -/
  | newline
  /-- The beginning of a more deeply indented block. -/
  | indent
  /-- The end of an indented block. -/
  | dedent
  /-- The flags and the quotes that open a string. -/
  | stringStart
  /-- Characters of a string that stand for themselves. -/
  | stringChunk
  /-- A doubled brace in a format string. -/
  | doubledBrace
  /-- The quotes that close a string. -/
  | stringEnd
  /-- A comment. -/
  | comment
  /-- A backslash at the end of a line. -/
  | lineContinuation
  | identifier
  | integer
  | float
  /-- A backslash in a string with what it escapes. -/
  | escapeSequence
  /-- A backslash in a string that escapes nothing. -/
  | loneBackslash
  /-- Characters of a format specifier. -/
  | formatText
  /-- An exclamation mark with the letter of a conversion. -/
  | typeConversion
  /-- The end of the source. -/
  | endOfSource
  /-- A keyword or a mark of punctuation. -/
  | mark (spelling : String)
  deriving DecidableEq, Repr, Inhabited

namespace Token

/-- The words that are literals of their own. -/
def literalWords : List String := ["True", "False", "None", "..."]

/-- A token that does not show in the tree. -/
def isHidden : Token → Bool
  | newline | indent | dedent | stringChunk | loneBackslash | formatText | endOfSource => true
  | _ => false

/-- A token that shows in the tree under a name. -/
def isNamed : Token → Bool
  | mark spelling => literalWords.contains spelling
  | other => !other.isHidden

end Token

/-- The phrases of the grammar, in the order in which the grammar lists them. -/
inductive Phrase where
  | source
  | statement
  | simpleStatements
  | simpleStatement
  | importStatement
  | importDots
  | relativeImport
  | futureImportStatement
  | importFromStatement
  | importList
  | aliasedImport
  | wildcardImport
  | printStatement
  | chevron
  | assertStatement
  | expressionStatement
  | namedExpression
  | namedExpressionTarget
  | returnStatement
  | deleteStatement
  | expressions
  | raiseStatement
  | passStatement
  | breakStatement
  | continueStatement
  | compoundStatement
  | ifStatement
  | elifClause
  | elseClause
  | matchStatement
  | matchBlock
  | caseClause
  | forStatement
  | whileStatement
  | tryStatement
  | exceptClause
  | exceptGroupClause
  | finallyClause
  | withStatement
  | withClause
  | withItem
  | functionDefinition
  | parameters
  | lambdaParameters
  | listSplat
  | dictionarySplat
  | globalStatement
  | nonlocalStatement
  | execStatement
  | typeAliasStatement
  | classDefinition
  | typeParameter
  | parenthesizedListSplat
  | argumentList
  | decoratedDefinition
  | decorator
  | suite
  | block
  | expressionList
  | dottedName
  | casePattern
  | simplePattern
  | namedCasePattern
  | unionPattern
  | listOfCasePatterns
  | tupleOfCasePatterns
  | dictionaryPattern
  | keyValuePattern
  | keywordPattern
  | splatPattern
  | classPattern
  | complexPattern
  | parameterSequence
  | patternSequence
  | parameter
  | pattern
  | tuplePattern
  | listPattern
  | defaultParameter
  | typedDefaultParameter
  | listSplatPattern
  | dictionarySplatPattern
  | asPattern
  | comprehensionSource
  | expression
  | primaryExpression
  | notOperator
  | booleanOperator
  | binaryOperator
  | unaryOperator
  | comparisonOperator
  | lambdaExpression
  | lambdaInComprehension
  | assignment
  | augmentedAssignment
  | leftHandSide
  | patternList
  | rightHandSide
  | yieldExpression
  | attributeAccess
  | subscript
  | slice
  | call
  | typedParameter
  | typeExpression
  | splatType
  | genericType
  | unionType
  | constrainedType
  | memberType
  | keywordArgument
  | listLiteral
  | setLiteral
  | tupleLiteral
  | dictionaryLiteral
  | pair
  | listComprehension
  | dictionaryComprehension
  | setComprehension
  | generatorExpression
  | comprehensionClauses
  | parenthesizedExpression
  | collectionElements
  | forInClause
  | ifClause
  | conditionalExpression
  | concatenatedString
  | stringLiteral
  | stringContent
  | interpolation
  | interpolatedExpression
  | formatSpecifier
  | keywordIdentifier
  | awaitExpression
  | positionalSeparator
  | keywordSeparator
  /-- The target of an `as`, a name that only the tree uses. -/
  | asPatternTarget
  /-- An interpolation inside a format specifier, a name that only the tree uses. -/
  | formatExpression
  deriving DecidableEq, Repr, Inhabited

/-- A phrase whose parts show in the phrase around it. -/
def Phrase.isHidden : Phrase → Bool
  | .statement | .simpleStatements | .simpleStatement | .importList | .namedExpressionTarget
  | .expressions | .compoundStatement | .matchBlock | .suite | .simplePattern
  | .namedCasePattern | .listOfCasePatterns | .tupleOfCasePatterns | .keyValuePattern
  | .parameterSequence | .patternSequence | .parameter | .pattern | .comprehensionSource
  | .expression | .primaryExpression | .leftHandSide | .rightHandSide
  | .comprehensionClauses | .collectionElements | .interpolatedExpression
  | .keywordIdentifier => true
  | _ => false

/-- The kinds of the nodes of a tree. -/
inductive Kind where
  | phrase (phrase : Phrase)
  | token (token : Token)
  deriving DecidableEq, Repr, Inhabited

/-- A kind with a name, as opposed to keywords and punctuation. -/
def Kind.isNamed : Kind → Bool
  | .phrase _ => true
  | .token found => found.isNamed

/-- The roles that a part can have in its phrase. -/
inductive Role where
  | argument
  | name
  | asName
  | moduleName
  | value
  | cause
  | condition
  | consequence
  | alternative
  | subject
  | body
  | guard
  | left
  | right
  | typeParameters
  | parameters
  | returnType
  | code
  | superclasses
  | definition
  | key
  | declaredType
  | operator
  | operators
  | function
  | arguments
  | object
  | member
  | index
  | expression
  | conversion
  | specifier
  deriving DecidableEq, Repr, Inhabited

end Hygiene.Python
