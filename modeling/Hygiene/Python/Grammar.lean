import Hygiene.Python.Shape

/-!
# The grammar

The shape of each phrase. The grammar takes the statements of both generations
of the language, so `print` and `exec` open statements of their own, and the
words `print`, `exec`, `async`, `await`, `match` and `type` are keywords in some
places and names in others.

The ranks of the operators follow their binding strength. A keyword that is read
as a name has a low rank, so that its statement is preferred wherever both could
go on.
-/

set_option autoImplicit false

namespace Hygiene.Python

open Shape

namespace Rank

def typedParameter : Int := -1
def lambdaExpression : Int := -2
def conditional : Int := -1
def parenthesized : Int := 1
def disjunction : Int := 10
def conjunction : Int := 11
def negation : Int := 12
def comparison : Int := 13
def bitwiseOr : Int := 14
def bitwiseAnd : Int := 15
def bitwiseXor : Int := 16
def shift : Int := 17
def sum : Int := 18
def product : Int := 19
def unary : Int := 20
def power : Int := 21
def call : Int := 22
def keywordName : Int := -3
def plainPrint : Int := -3
def chevronPrint : Int := 1
def pattern : Int := 1
def dottedName : Int := 1
def specialType : Int := 1

end Rank

namespace Grammar

/-- A part of the given rank that groups to neither side. -/
def atRank (rank : Int) (part : Shape) : Shape := .ranked (some rank) none part

/-- A part of the given rank that groups to the left. -/
def leftAt (rank : Int) (part : Shape) : Shape := .ranked (some rank) (some .left) part

/-- A part of the given rank that groups to the right. -/
def rightAt (rank : Int) (part : Shape) : Shape := .ranked (some rank) (some .right) part

/-- A part with a role. -/
def part (role : Role) (body : Shape) : Shape := .role role body

/-- A phrase that shows as another one. -/
def shown (part : Shape) (phrase : Phrase) : Shape := .shownAs (.phrase phrase) part

/-- One of several phrases. -/
def anyPhrase (phrases : List Phrase) : Shape := oneOf (phrases.map ofPhrase)

/-- One of several keywords or marks of punctuation. -/
def anyMark (spellings : List String) : Shape :=
  oneOf (spellings.map fun spelling => ofToken (.mark spelling))

/-- The token of a name. -/
def identifier : Shape := ofToken .identifier

/-- An operand, an operator of the given rank and side, and an operand. -/
def binary (operand : Phrase) (rank : Int) (side : Side) (operator : String) : Shape :=
  .ranked (some rank) (some side)
    (inOrder [part .left operand, part .operator operator, part .right operand])

/-- A list of phrases that ends in a comma or has at least one comma inside. -/
def tupleOf (part : Phrase) : Shape :=
  inOrder [part, .choice ","
    (inOrder [.many (inOrder [",", part]), optionalComma])]

/-! ## Statements -/

/-- The names behind an `import`. -/
def importedNames : Shape :=
  .choice (ofPhrase .importList) (inOrder ["(", ofPhrase .importList, ")"])

/-- The shape of the phrases that are statements, or parts of statements. -/
def statementShape : Phrase → Option Shape
  | .source => some (anyNumber Phrase.statement)
  | .statement => some (anyPhrase [.simpleStatements, .compoundStatement])
  | .simpleStatements => some <| inOrder
      [separated Phrase.simpleStatement ";", optional ";", Token.newline]
  | .simpleStatement => some <| anyPhrase
      [.futureImportStatement, .importStatement, .importFromStatement, .printStatement,
        .assertStatement, .expressionStatement, .returnStatement, .deleteStatement,
        .raiseStatement, .passStatement, .breakStatement, .continueStatement,
        .globalStatement, .nonlocalStatement, .execStatement, .typeAliasStatement]
  | .importStatement => some <| inOrder ["import", Phrase.importList]
  | .importDots => some <| .many "."
  | .relativeImport => some <| inOrder [Phrase.importDots, optional Phrase.dottedName]
  | .futureImportStatement => some <| inOrder ["from", "__future__", "import", importedNames]
  | .importFromStatement => some <| inOrder
      ["from", part .moduleName (anyPhrase [.relativeImport, .dottedName]), "import",
        .choice Phrase.wildcardImport importedNames]
  | .importList => some <| inOrder
      [commaSeparated (part .name (anyPhrase [.dottedName, .aliasedImport])), optionalComma]
  | .aliasedImport => some <| inOrder
      [part .name Phrase.dottedName, "as", part .asName identifier]
  | .wildcardImport => some "*"
  | .printStatement => some <| .choice
      (atRank Rank.chevronPrint (inOrder
        ["print", Phrase.chevron, anyNumber (inOrder [",", part .argument Phrase.expression]),
          optionalComma]))
      (atRank Rank.plainPrint (.preferred (-1) (inOrder
        ["print", commaSeparated (part .argument Phrase.expression), optionalComma])))
  | .chevron => some <| inOrder [">>", Phrase.expression]
  | .assertStatement => some <| inOrder ["assert", commaSeparated Phrase.expression]
  | .expressionStatement => some <| oneOf
      [Phrase.expression,
        inOrder [commaSeparated Phrase.expression, optionalComma],
        Phrase.assignment, Phrase.augmentedAssignment, Phrase.yieldExpression]
  | .returnStatement => some <| inOrder ["return", optional Phrase.expressions]
  | .deleteStatement => some <| inOrder ["del", Phrase.expressions]
  | .expressions => some <| anyPhrase [.expression, .expressionList]
  | .raiseStatement => some <| inOrder
      ["raise", optional Phrase.expressions,
        optional (inOrder ["from", part .cause Phrase.expression])]
  | .passStatement => some <| .ranked (some 0) (some .left) "pass"
  | .breakStatement => some <| .ranked (some 0) (some .left) "break"
  | .continueStatement => some <| .ranked (some 0) (some .left) "continue"
  | .compoundStatement => some <| anyPhrase
      [.ifStatement, .forStatement, .whileStatement, .tryStatement, .withStatement,
        .functionDefinition, .classDefinition, .decoratedDefinition, .matchStatement]
  | .ifStatement => some <| inOrder
      ["if", part .condition Phrase.expression, ":", part .consequence Phrase.suite,
        anyNumber (part .alternative Phrase.elifClause),
        optional (part .alternative Phrase.elseClause)]
  | .elifClause => some <| inOrder
      ["elif", part .condition Phrase.expression, ":", part .consequence Phrase.suite]
  | .elseClause => some <| inOrder ["else", ":", part .body Phrase.suite]
  | .matchStatement => some <| inOrder
      ["match", commaSeparated (part .subject Phrase.expression), optionalComma, ":",
        part .body (shown Phrase.matchBlock .block)]
  | .matchBlock => some <| .choice
      (inOrder [Token.indent, anyNumber (part .alternative Phrase.caseClause), Token.dedent])
      Token.newline
  | .caseClause => some <| inOrder
      ["case", commaSeparated Phrase.casePattern, optionalComma,
        optional (part .guard Phrase.ifClause), ":", part .consequence Phrase.suite]
  | .forStatement => some <| inOrder
      [optional "async", "for", part .left Phrase.leftHandSide, "in",
        part .right Phrase.expressions, ":", part .body Phrase.suite,
        part .alternative (optional Phrase.elseClause)]
  | .whileStatement => some <| inOrder
      ["while", part .condition Phrase.expression, ":", part .body Phrase.suite,
        optional (part .alternative Phrase.elseClause)]
  | .tryStatement => some <| inOrder
      ["try", ":", part .body Phrase.suite, oneOf
        [inOrder [.many Phrase.exceptClause, optional Phrase.elseClause,
            optional Phrase.finallyClause],
          inOrder [.many Phrase.exceptGroupClause, optional Phrase.elseClause,
            optional Phrase.finallyClause],
          Phrase.finallyClause]]
  | .exceptClause => some <| inOrder
      ["except",
        optional (inOrder [Phrase.expression,
          optional (inOrder [anyMark ["as", ","], Phrase.expression])]),
        ":", Phrase.suite]
  | .exceptGroupClause => some <| inOrder
      ["except*",
        inOrder [Phrase.expression, optional (inOrder ["as", Phrase.expression])],
        ":", Phrase.suite]
  | .finallyClause => some <| inOrder ["finally", ":", Phrase.suite]
  | .withStatement => some <| inOrder
      [optional "async", "with", Phrase.withClause, ":", part .body Phrase.suite]
  | .withClause => some <| .choice
      (inOrder [commaSeparated Phrase.withItem, optionalComma])
      (inOrder ["(", commaSeparated Phrase.withItem, optionalComma, ")"])
  | .withItem => some <| .preferred 1 (part .value Phrase.expression)
  | .functionDefinition => some <| inOrder
      [optional "async", "def", part .name identifier,
        part .typeParameters (optional Phrase.typeParameter),
        part .parameters Phrase.parameters,
        optional (inOrder ["->", part .returnType Phrase.typeExpression]),
        ":", part .body Phrase.suite]
  | .parameters => some <| inOrder ["(", optional Phrase.parameterSequence, ")"]
  | .lambdaParameters => some Phrase.parameterSequence
  | .listSplat => some <| inOrder ["*", Phrase.expression]
  | .dictionarySplat => some <| inOrder ["**", Phrase.expression]
  | .globalStatement => some <| inOrder ["global", commaSeparated identifier]
  | .nonlocalStatement => some <| inOrder ["nonlocal", commaSeparated identifier]
  | .execStatement => some <| inOrder
      ["exec", part .code (.choice Phrase.stringLiteral identifier),
        optional (inOrder ["in", commaSeparated Phrase.expression])]
  | .typeAliasStatement => some <| .preferred 1
      (inOrder ["type", Phrase.typeExpression, "=", Phrase.typeExpression])
  | .classDefinition => some <| inOrder
      ["class", part .name identifier, part .typeParameters (optional Phrase.typeParameter),
        part .superclasses (optional Phrase.argumentList), ":", part .body Phrase.suite]
  | .typeParameter => some <| inOrder ["[", commaSeparated Phrase.typeExpression, "]"]
  | .parenthesizedListSplat => some <| atRank Rank.parenthesized (inOrder
      ["(", .choice (shown Phrase.parenthesizedListSplat .parenthesizedExpression)
          Phrase.listSplat, ")"])
  | .argumentList => some <| inOrder
      ["(",
        optional (commaSeparated (oneOf
          [Phrase.expression, Phrase.listSplat, Phrase.dictionarySplat,
            shown Phrase.parenthesizedListSplat .parenthesizedExpression,
            Phrase.keywordArgument])),
        optionalComma, ")"]
  | .decoratedDefinition => some <| inOrder
      [.many Phrase.decorator,
        part .definition (anyPhrase [.classDefinition, .functionDefinition])]
  | .decorator => some <| inOrder ["@", Phrase.expression, Token.newline]
  | .suite => some <| oneOf
      [shown Phrase.simpleStatements .block, inOrder [Token.indent, Phrase.block],
        shown Token.newline .block]
  | .block => some <| inOrder [anyNumber Phrase.statement, Token.dedent]
  | _ => none

/-! ## Patterns and parameters -/

/-- An integer or a float. -/
def number : Shape := .choice Token.integer Token.float

/-- Patterns of a case, with commas between them and perhaps after them. -/
def casePatterns : Shape :=
  optional (inOrder [commaSeparated Phrase.casePattern, optionalComma])

/-- What a splat in a pattern can collect into. -/
def splatTarget : Shape :=
  oneOf [identifier, Phrase.keywordIdentifier, Phrase.subscript, Phrase.attributeAccess]

/-- The shape of the phrases that are patterns, or parameters of a function. -/
def patternShape : Phrase → Option Shape
  | .expressionList => some <| .ranked (some 0) (some .right) (tupleOf .expression)
  | .dottedName => some <| atRank Rank.dottedName (separated identifier ".")
  | .casePattern => some <| atRank Rank.pattern (oneOf
      [shown Phrase.namedCasePattern .asPattern, Phrase.keywordPattern, Phrase.simplePattern])
  | .simplePattern => some <| atRank Rank.pattern (oneOf
      [Phrase.classPattern, Phrase.splatPattern, Phrase.unionPattern,
        shown Phrase.listOfCasePatterns .listPattern,
        shown Phrase.tupleOfCasePatterns .tuplePattern,
        Phrase.dictionaryPattern, Phrase.stringLiteral, Phrase.concatenatedString,
        "True", "False", "None",
        inOrder [optional "-", number],
        Phrase.complexPattern, Phrase.dottedName, "_"])
  | .namedCasePattern => some <| inOrder [Phrase.casePattern, "as", identifier]
  | .unionPattern => some <| .ranked (some 0) (some .right) (inOrder
      [Phrase.simplePattern,
        .many (.ranked (some 0) (some .left) (inOrder ["|", Phrase.simplePattern]))])
  | .listOfCasePatterns => some <| inOrder ["[", casePatterns, "]"]
  | .tupleOfCasePatterns => some <| inOrder ["(", casePatterns, ")"]
  | .dictionaryPattern => some <| inOrder
      ["\x7b",
        optional (inOrder
          [commaSeparated (anyPhrase [.keyValuePattern, .splatPattern]), optionalComma]),
        "\x7d"]
  | .keyValuePattern => some <| inOrder
      [part .key Phrase.simplePattern, ":", part .value Phrase.casePattern]
  | .keywordPattern => some <| inOrder [identifier, "=", Phrase.simplePattern]
  | .splatPattern => some <| atRank Rank.pattern (inOrder
      [anyMark ["*", "**"], .choice identifier "_"])
  | .classPattern => some <| inOrder [Phrase.dottedName, "(", casePatterns, ")"]
  | .complexPattern => some <| atRank Rank.pattern (inOrder
      [optional "-", number, anyMark ["+", "-"], number])
  | .parameterSequence => some <| inOrder [commaSeparated Phrase.parameter, optionalComma]
  | .patternSequence => some <| inOrder [commaSeparated Phrase.pattern, optionalComma]
  | .parameter => some <| oneOf
      [identifier, Phrase.typedParameter, Phrase.defaultParameter,
        Phrase.typedDefaultParameter, Phrase.listSplatPattern, Phrase.tuplePattern,
        Phrase.keywordSeparator, Phrase.positionalSeparator, Phrase.dictionarySplatPattern]
  | .pattern => some <| oneOf
      [identifier, Phrase.keywordIdentifier, Phrase.subscript, Phrase.attributeAccess,
        Phrase.listSplatPattern, Phrase.tuplePattern, Phrase.listPattern]
  | .tuplePattern => some <| inOrder ["(", optional Phrase.patternSequence, ")"]
  | .listPattern => some <| inOrder ["[", optional Phrase.patternSequence, "]"]
  | .defaultParameter => some <| inOrder
      [part .name (.choice identifier Phrase.tuplePattern), "=", part .value Phrase.expression]
  | .typedDefaultParameter => some <| atRank Rank.typedParameter (inOrder
      [part .name identifier, ":", part .declaredType Phrase.typeExpression, "=",
        part .value Phrase.expression])
  | .listSplatPattern => some <| inOrder ["*", splatTarget]
  | .dictionarySplatPattern => some <| inOrder ["**", splatTarget]
  | .asPattern => some <| .ranked (some 0) (some .left) (inOrder
      [Phrase.expression, "as", part .asName (shown Phrase.expression .asPatternTarget)])
  | .typedParameter => some <| atRank Rank.typedParameter (inOrder
      [oneOf [identifier, Phrase.listSplatPattern, Phrase.dictionarySplatPattern], ":",
        part .declaredType Phrase.typeExpression])
  | .patternList => some <| tupleOf .pattern
  | .positionalSeparator => some "/"
  | .keywordSeparator => some "*"
  | _ => none

/-! ## Expressions -/

/-- An operator of two words, each of which shows as the whole operator. -/
def twoWords (first second : String) : Shape :=
  .shownAs (.token (.mark (first ++ " " ++ second))) (inOrder [first, second])

/-- The elements of a literal or the clauses behind them. -/
def clauses : Shape := ofPhrase .comprehensionClauses

/-- A slice's second colon with what follows it. -/
def sliceStep : Shape := optional (inOrder [":", optional Phrase.expression])

/-- The shape of the phrases that are expressions, or parts of expressions. -/
def expressionShape : Phrase → Option Shape
  | .namedExpression => some <| inOrder
      [part .name Phrase.namedExpressionTarget, ":=", part .value Phrase.expression]
  | .namedExpressionTarget => some <| .choice identifier Phrase.keywordIdentifier
  | .comprehensionSource => some <| .choice Phrase.expression
      (shown Phrase.lambdaInComprehension .lambdaExpression)
  | .expression => some <| anyPhrase
      [.comparisonOperator, .notOperator, .booleanOperator, .lambdaExpression,
        .primaryExpression, .conditionalExpression, .namedExpression, .asPattern]
  | .primaryExpression => some <| oneOf
      [Phrase.awaitExpression, Phrase.binaryOperator, identifier, Phrase.keywordIdentifier,
        Phrase.stringLiteral, Phrase.concatenatedString, Token.integer, Token.float,
        "True", "False", "None", Phrase.unaryOperator, Phrase.attributeAccess,
        Phrase.subscript, Phrase.call, Phrase.listLiteral, Phrase.listComprehension,
        Phrase.dictionaryLiteral, Phrase.dictionaryComprehension, Phrase.setLiteral,
        Phrase.setComprehension, Phrase.tupleLiteral, Phrase.parenthesizedExpression,
        Phrase.generatorExpression, "...",
        shown Phrase.listSplatPattern .listSplat]
  | .notOperator => some <| atRank Rank.negation (inOrder
      ["not", part .argument Phrase.expression])
  | .booleanOperator => some <| .choice
      (binary .expression Rank.conjunction .left "and")
      (binary .expression Rank.disjunction .left "or")
  | .binaryOperator => some <| oneOf
      [binary .primaryExpression Rank.sum .left "+",
        binary .primaryExpression Rank.sum .left "-",
        binary .primaryExpression Rank.product .left "*",
        binary .primaryExpression Rank.product .left "@",
        binary .primaryExpression Rank.product .left "/",
        binary .primaryExpression Rank.product .left "%",
        binary .primaryExpression Rank.product .left "//",
        binary .primaryExpression Rank.power .right "**",
        binary .primaryExpression Rank.bitwiseOr .left "|",
        binary .primaryExpression Rank.bitwiseAnd .left "&",
        binary .primaryExpression Rank.bitwiseXor .left "^",
        binary .primaryExpression Rank.shift .left "<<",
        binary .primaryExpression Rank.shift .left ">>"]
  | .unaryOperator => some <| atRank Rank.unary (inOrder
      [part .operator (anyMark ["+", "-", "~"]), part .argument Phrase.primaryExpression])
  | .comparisonOperator => some <| leftAt Rank.comparison (inOrder
      [Phrase.primaryExpression,
        .many (inOrder
          [part .operators (oneOf
              ["<", "<=", "==", "!=", ">=", ">", "<>", "in", twoWords "not" "in", "is",
                twoWords "is" "not"]),
            Phrase.primaryExpression])])
  | .lambdaExpression => some <| atRank Rank.lambdaExpression (inOrder
      ["lambda", part .parameters (optional Phrase.lambdaParameters), ":",
        part .body Phrase.expression])
  | .lambdaInComprehension => some <| inOrder
      ["lambda", part .parameters (optional Phrase.lambdaParameters), ":",
        part .body Phrase.comprehensionSource]
  | .assignment => some <| inOrder
      [part .left Phrase.leftHandSide, oneOf
        [inOrder ["=", part .right Phrase.rightHandSide],
          inOrder [":", part .declaredType Phrase.typeExpression],
          inOrder [":", part .declaredType Phrase.typeExpression, "=",
            part .right Phrase.rightHandSide]]]
  | .augmentedAssignment => some <| inOrder
      [part .left Phrase.leftHandSide,
        part .operator (anyMark
          ["+=", "-=", "*=", "/=", "@=", "//=", "%=", "**=", ">>=", "<<=", "&=", "^=", "|="]),
        part .right Phrase.rightHandSide]
  | .leftHandSide => some <| anyPhrase [.pattern, .patternList]
  | .rightHandSide => some <| anyPhrase
      [.expression, .expressionList, .assignment, .augmentedAssignment, .patternList,
        .yieldExpression]
  | .yieldExpression => some <| .ranked (some 0) (some .right) (inOrder
      ["yield",
        .choice (inOrder ["from", Phrase.expression]) (optional Phrase.expressions)])
  | .attributeAccess => some <| atRank Rank.call (inOrder
      [part .object Phrase.primaryExpression, ".", part .member identifier])
  | .subscript => some <| atRank Rank.call (inOrder
      [part .value Phrase.primaryExpression, "[",
        commaSeparated (part .index (anyPhrase [.expression, .slice])), optionalComma, "]"])
  | .slice => some <| inOrder
      [optional Phrase.expression, ":", optional Phrase.expression, sliceStep]
  | .call => some <| atRank Rank.call (inOrder
      [part .function Phrase.primaryExpression,
        part .arguments (anyPhrase [.generatorExpression, .argumentList])])
  | .typeExpression => some <| anyPhrase
      [.expression, .splatType, .genericType, .unionType, .constrainedType, .memberType]
  | .splatType => some <| atRank Rank.specialType (inOrder [anyMark ["*", "**"], identifier])
  | .genericType => some <| atRank Rank.specialType (inOrder
      [identifier, Phrase.typeParameter])
  | .unionType => some <| .ranked (some 0) (some .left) (inOrder
      [Phrase.typeExpression, "|", Phrase.typeExpression])
  | .constrainedType => some <| .ranked (some 0) (some .right) (inOrder
      [Phrase.typeExpression, ":", Phrase.typeExpression])
  | .memberType => some <| inOrder [Phrase.typeExpression, ".", identifier]
  | .keywordArgument => some <| inOrder
      [part .name (.choice identifier Phrase.keywordIdentifier), "=",
        part .value Phrase.expression]
  | .listLiteral => some <| inOrder ["[", optional Phrase.collectionElements, "]"]
  | .setLiteral => some <| inOrder ["\x7b", Phrase.collectionElements, "\x7d"]
  | .tupleLiteral => some <| inOrder ["(", optional Phrase.collectionElements, ")"]
  | .dictionaryLiteral => some <| inOrder
      ["\x7b", optional (commaSeparated (anyPhrase [.pair, .dictionarySplat])),
        optionalComma, "\x7d"]
  | .pair => some <| inOrder
      [part .key Phrase.expression, ":", part .value Phrase.expression]
  | .listComprehension => some <| inOrder ["[", part .body Phrase.expression, clauses, "]"]
  | .dictionaryComprehension => some <| inOrder ["\x7b", part .body Phrase.pair, clauses, "\x7d"]
  | .setComprehension => some <| inOrder ["\x7b", part .body Phrase.expression, clauses, "\x7d"]
  | .generatorExpression => some <| inOrder ["(", part .body Phrase.expression, clauses, ")"]
  | .comprehensionClauses => some <| inOrder
      [Phrase.forInClause, anyNumber (anyPhrase [.forInClause, .ifClause])]
  | .parenthesizedExpression => some <| atRank Rank.parenthesized (inOrder
      ["(", anyPhrase [.expression, .yieldExpression], ")"])
  | .collectionElements => some <| inOrder
      [commaSeparated (anyPhrase
          [.expression, .yieldExpression, .listSplat, .parenthesizedListSplat]),
        optionalComma]
  | .forInClause => some <| .ranked (some 0) (some .left) (inOrder
      [optional "async", "for", part .left Phrase.leftHandSide, "in",
        part .right (commaSeparated Phrase.comprehensionSource), optionalComma])
  | .ifClause => some <| inOrder ["if", Phrase.expression]
  | .conditionalExpression => some <| rightAt Rank.conditional (inOrder
      [Phrase.expression, "if", Phrase.expression, "else", Phrase.expression])
  | .keywordIdentifier => some <| .choice
      (atRank Rank.keywordName (.shownAs (.token .identifier)
        (anyMark ["print", "exec", "async", "await", "match"])))
      (.shownAs (.token .identifier) "type")
  | .awaitExpression => some <| atRank Rank.unary (inOrder
      ["await", Phrase.primaryExpression])
  | _ => none

/-! ## Strings -/

/-- The shape of the phrases that make up strings. -/
def stringShape : Phrase → Option Shape
  | .concatenatedString => some <| inOrder
      [Phrase.stringLiteral, .many Phrase.stringLiteral]
  | .stringLiteral => some <| inOrder
      [Token.stringStart, anyNumber (anyPhrase [.interpolation, .stringContent]),
        Token.stringEnd]
  | .stringContent => some <| .ranked (some 0) (some .right) (.many (oneOf
      [Token.doubledBrace, Token.escapeSequence, Token.loneBackslash, Token.stringChunk]))
  | .interpolation => some <| inOrder
      ["\x7b", part .expression Phrase.interpolatedExpression, optional "=",
        optional (part .conversion Token.typeConversion),
        optional (part .specifier Phrase.formatSpecifier), "\x7d"]
  | .interpolatedExpression => some <| anyPhrase
      [.expression, .expressionList, .patternList, .yieldExpression]
  | .formatSpecifier => some <| inOrder
      [":", anyNumber (.choice Token.formatText (shown Phrase.interpolation .formatExpression))]
  | _ => none

/-- The shape of a phrase. -/
def shape (phrase : Phrase) : Shape :=
  (((statementShape phrase).or (patternShape phrase)).or (expressionShape phrase)).or
    (stringShape phrase) |>.getD .blank

/-- The phrases, in the order of the grammar. -/
def phrases : List Phrase :=
  [.source, .statement, .simpleStatements, .simpleStatement, .importStatement, .importDots,
    .relativeImport, .futureImportStatement, .importFromStatement, .importList,
    .aliasedImport, .wildcardImport, .printStatement, .chevron, .assertStatement,
    .expressionStatement, .namedExpression, .namedExpressionTarget, .returnStatement,
    .deleteStatement, .expressions, .raiseStatement, .passStatement, .breakStatement,
    .continueStatement, .compoundStatement, .ifStatement, .elifClause, .elseClause,
    .matchStatement, .matchBlock, .caseClause, .forStatement, .whileStatement,
    .tryStatement, .exceptClause, .exceptGroupClause, .finallyClause, .withStatement,
    .withClause, .withItem, .functionDefinition, .parameters, .lambdaParameters,
    .listSplat, .dictionarySplat, .globalStatement, .nonlocalStatement, .execStatement,
    .typeAliasStatement, .classDefinition, .typeParameter, .parenthesizedListSplat,
    .argumentList, .decoratedDefinition, .decorator, .suite, .block, .expressionList,
    .dottedName, .casePattern, .simplePattern, .namedCasePattern, .unionPattern,
    .listOfCasePatterns, .tupleOfCasePatterns, .dictionaryPattern, .keyValuePattern,
    .keywordPattern, .splatPattern, .classPattern, .complexPattern, .parameterSequence,
    .patternSequence, .parameter, .pattern, .tuplePattern, .listPattern,
    .defaultParameter, .typedDefaultParameter, .listSplatPattern,
    .dictionarySplatPattern, .asPattern, .comprehensionSource, .expression,
    .primaryExpression, .notOperator, .booleanOperator, .binaryOperator, .unaryOperator,
    .comparisonOperator, .lambdaExpression, .lambdaInComprehension, .assignment,
    .augmentedAssignment, .leftHandSide, .patternList, .rightHandSide, .yieldExpression,
    .attributeAccess, .subscript, .slice, .call, .typedParameter, .typeExpression,
    .splatType, .genericType, .unionType, .constrainedType, .memberType,
    .keywordArgument, .listLiteral, .setLiteral, .tupleLiteral, .dictionaryLiteral, .pair,
    .listComprehension, .dictionaryComprehension, .setComprehension, .generatorExpression,
    .comprehensionClauses, .parenthesizedExpression, .collectionElements, .forInClause,
    .ifClause, .conditionalExpression, .concatenatedString, .stringLiteral, .stringContent,
    .interpolation, .interpolatedExpression, .formatSpecifier, .keywordIdentifier,
    .awaitExpression, .positionalSeparator, .keywordSeparator]

/-- Phrases whose shape is read in place of the phrase wherever it stands. -/
def isInlined : Phrase → Bool
  | .simpleStatement | .compoundStatement | .suite | .expressions | .leftHandSide
  | .keywordIdentifier => true
  | _ => false

end Grammar

end Hygiene.Python
