import SourceFacts.Grammar.Rule

namespace SourceFacts.Python

/-!
# The grammar of Python

The concrete syntax of Python, two and three, as a list of rules. A name with a
leading underscore never appears in the tree. Line ends, indentation and the
parts of string literals are layout tokens, which are recognised by a scanner
with memory.
-/

open Grammar Rule

/-- A token with a fixed text. -/
private def lit (text : String) : Rule String := .token (.literal text)

/-- A reference to a rule. -/
private def sym (name : String) : Rule String := .symbol name

/-- One or more of a rule, separated by a token. -/
private def separated (body : Rule String) (separator : String) : Rule String :=
  .seq body (.many (.seq (lit separator) body))

/-- One or more of a rule, separated by commas. -/
private def commaSeparated (body : Rule String) : Rule String := separated body ","

/-! ## Tokens -/

/-- Blanks between tokens: white space, line ends and invisible characters. -/
private def blanks : Pattern :=
  .anyOf [
    .letters (.union (.ofText "\t\n\x0b\x0c\r ")
      (.union (.single Letter.byteOrderMark)
        (.union (.single Letter.wordJoiner) (.single Letter.zeroWidthSpace)))),
    .seq (.optional (.oneOf "\r")) (.oneOf "\n")]

private def decimalDigits : LetterSet := .range '0' '9'

private def hexadecimalDigits : LetterSet :=
  .union decimalDigits (.union (.range 'a' 'f') (.range 'A' 'F'))

/-- Digits of a set, in groups that an underscore may introduce. -/
private def groupedDigits (digits : LetterSet) : Pattern :=
  .oneOrMore (.seq (.optional (.oneOf "_")) (.oneOrMore (.letters digits)))

/-- Decimal digits, in groups that an underscore may end. -/
private def digitGroups : Pattern :=
  .oneOrMore (.seq (.oneOrMore (.letters decimalDigits)) (.optional (.oneOf "_")))

private def basedInteger (marks : String) (digits : LetterSet) : Pattern :=
  .concat [.oneOf "0", .oneOf marks, groupedDigits digits, .optional (.oneOf "Ll")]

private def integer : Pattern :=
  .anyOf [
    basedInteger "xX" hexadecimalDigits,
    basedInteger "oO" (.range '0' '7'),
    basedInteger "bB" (.range '0' '1'),
    .seq digitGroups (.either (.optional (.oneOf "Ll")) (.optional (.oneOf "jJ")))]

private def exponent : Pattern :=
  .concat [.oneOf "eE", .optional (.oneOf "+-"), digitGroups]

private def float : Pattern :=
  .seq
    (.anyOf [
      .concat [digitGroups, .oneOf ".", .optional digitGroups, .optional exponent],
      .concat [.optional digitGroups, .oneOf ".", digitGroups, .optional exponent],
      .seq digitGroups exponent])
    (.optional (.either (.oneOf "Ll") (.oneOf "jJ")))

/-- A letter or underscore, then letters, digits and underscores. -/
private def identifier : Pattern :=
  let start := LetterSet.union (.range 'a' 'z')
    (.union (.range 'A' 'Z') (.union (.ofText "_") (.single Letter.identifierStart)))
  let continuation := LetterSet.union start
    (.union (.range '0' '9')
      (.union (.ofText "·") (.single Letter.identifierContinue)))
  .seq (.letters start) (.many (.letters continuation))

private def comment : Pattern :=
  .seq (.oneOf "#") (.many (.letters (LetterSet.ofText "\n\x00").compl))

private def lineContinuation : Lexeme :=
  { pattern := .seq (.oneOf "\\")
      (.either (.seq (.optional (.oneOf "\r")) (.oneOf "\n")) (.oneOf "\x00"))
    precedence := 1 }

private def escapeSequence : Lexeme :=
  let hexadecimal := Pattern.letters hexadecimalDigits
  { pattern := .seq (.oneOf "\\")
      (.anyOf [
        .seq (.oneOf "u") (.times 4 hexadecimal),
        .seq (.oneOf "U") (.times 8 hexadecimal),
        .seq (.oneOf "x") (.times 2 hexadecimal),
        .times 3 (.letters decimalDigits),
        .seq (.optional (.oneOf "\r")) (.oneOf "\n"),
        .oneOf "'\"abfrntv\\",
        .concat [.literal "N\x7b", .oneOrMore (.letters (LetterSet.ofText "\x7d").compl),
          .oneOf "\x7d"]])
    precedence := 1
    immediate := true }

/-- The text of a format specifier, up to a brace or the end of the line. -/
private def formatText : Lexeme :=
  { pattern := .oneOrMore (.letters (LetterSet.ofText "\x7b\x7d\n").compl)
    precedence := 1 }

/-! ## Precedences -/

private def lambdaLevel : Int := -2
private def typedParameterLevel : Int := -1
private def conditionalLevel : Int := -1
private def parenthesizedLevel : Int := 1
private def orLevel : Int := 10
private def andLevel : Int := 11
private def notLevel : Int := 12
private def compareLevel : Int := 13
private def bitwiseOrLevel : Int := 14
private def bitwiseAndLevel : Int := 15
private def xorLevel : Int := 16
private def shiftLevel : Int := 17
private def plusLevel : Int := 18
private def timesLevel : Int := 19
private def unaryLevel : Int := 20
private def powerLevel : Int := 21
private def callLevel : Int := 22

/-! ## Rules -/

private def simpleStatementRules : List (String × Rule String) := [
  ("module", .many (sym "_statement")),
  ("_statement", choice [sym "_simple_statements", sym "_compound_statement"]),
  ("_simple_statements", sequence [
    separated (sym "_simple_statement") ";", optional (lit ";"), sym "_newline"]),
  ("_simple_statement", choice [
    sym "future_import_statement", sym "import_statement", sym "import_from_statement",
    sym "print_statement", sym "assert_statement", sym "expression_statement",
    sym "return_statement", sym "delete_statement", sym "raise_statement",
    sym "pass_statement", sym "break_statement", sym "continue_statement",
    sym "global_statement", sym "nonlocal_statement", sym "exec_statement",
    sym "type_alias_statement"]),
  ("import_statement", .seq (lit "import") (sym "_import_list")),
  ("import_prefix", .oneOrMore (lit ".")),
  ("relative_import", .seq (sym "import_prefix") (optional (sym "dotted_name"))),
  ("future_import_statement", sequence [
    lit "from", lit "__future__", lit "import",
    choice [sym "_import_list", sequence [lit "(", sym "_import_list", lit ")"]]]),
  ("import_from_statement", sequence [
    lit "from",
    field "module_name" (choice [sym "relative_import", sym "dotted_name"]),
    lit "import",
    choice [sym "wildcard_import", sym "_import_list",
      sequence [lit "(", sym "_import_list", lit ")"]]]),
  ("_import_list", .seq
    (commaSeparated (field "name" (choice [sym "dotted_name", sym "aliased_import"])))
    (optional (lit ","))),
  ("aliased_import", sequence [
    field "name" (sym "dotted_name"), lit "as", field "alias" (sym "identifier")]),
  ("wildcard_import", lit "*"),
  ("print_statement", choice [
    prec 1 (sequence [
      lit "print", sym "chevron",
      many (.seq (lit ",") (field "argument" (sym "expression"))),
      optional (lit ",")]),
    prec (-3) (dynamic (-1) (sequence [
      lit "print", commaSeparated (field "argument" (sym "expression")),
      optional (lit ",")]))]),
  ("chevron", .seq (lit ">>") (sym "expression")),
  ("assert_statement", .seq (lit "assert") (commaSeparated (sym "expression"))),
  ("expression_statement", choice [
    sym "expression",
    .seq (commaSeparated (sym "expression")) (optional (lit ",")),
    sym "assignment", sym "augmented_assignment", sym "yield"]),
  ("named_expression", sequence [
    field "name" (sym "_named_expression_lhs"), lit ":=",
    field "value" (sym "expression")]),
  ("_named_expression_lhs", choice [sym "identifier", sym "keyword_identifier"]),
  ("return_statement", .seq (lit "return") (optional (sym "_expressions"))),
  ("delete_statement", .seq (lit "del") (sym "_expressions")),
  ("_expressions", choice [sym "expression", sym "expression_list"]),
  ("raise_statement", sequence [
    lit "raise", optional (sym "_expressions"),
    optional (.seq (lit "from") (field "cause" (sym "expression")))]),
  ("pass_statement", leftAssoc 0 (lit "pass")),
  ("break_statement", leftAssoc 0 (lit "break")),
  ("continue_statement", leftAssoc 0 (lit "continue"))]

private def compoundStatementRules : List (String × Rule String) := [
  ("_compound_statement", choice [
    sym "if_statement", sym "for_statement", sym "while_statement",
    sym "try_statement", sym "with_statement", sym "function_definition",
    sym "class_definition", sym "decorated_definition", sym "match_statement"]),
  ("if_statement", sequence [
    lit "if", field "condition" (sym "expression"), lit ":",
    field "consequence" (sym "_suite"),
    many (field "alternative" (sym "elif_clause")),
    optional (field "alternative" (sym "else_clause"))]),
  ("elif_clause", sequence [
    lit "elif", field "condition" (sym "expression"), lit ":",
    field "consequence" (sym "_suite")]),
  ("else_clause", sequence [lit "else", lit ":", field "body" (sym "_suite")]),
  ("match_statement", sequence [
    lit "match", commaSeparated (field "subject" (sym "expression")),
    optional (lit ","), lit ":",
    field "body" (shownAs ⟨"block", true⟩ (sym "_match_block"))]),
  ("_match_block", choice [
    sequence [sym "_indent", many (field "alternative" (sym "case_clause")), sym "_dedent"],
    sym "_newline"]),
  ("case_clause", sequence [
    lit "case", commaSeparated (sym "case_pattern"), optional (lit ","),
    optional (field "guard" (sym "if_clause")), lit ":",
    field "consequence" (sym "_suite")]),
  ("for_statement", sequence [
    optional (lit "async"), lit "for", field "left" (sym "_left_hand_side"),
    lit "in", field "right" (sym "_expressions"), lit ":",
    field "body" (sym "_suite"),
    field "alternative" (optional (sym "else_clause"))]),
  ("while_statement", sequence [
    lit "while", field "condition" (sym "expression"), lit ":",
    field "body" (sym "_suite"),
    optional (field "alternative" (sym "else_clause"))]),
  ("try_statement", sequence [
    lit "try", lit ":", field "body" (sym "_suite"),
    choice [
      sequence [oneOrMore (sym "except_clause"), optional (sym "else_clause"),
        optional (sym "finally_clause")],
      sequence [oneOrMore (sym "except_group_clause"), optional (sym "else_clause"),
        optional (sym "finally_clause")],
      sym "finally_clause"]]),
  ("except_clause", sequence [
    lit "except",
    optional (.seq (sym "expression")
      (optional (.seq (choice [lit "as", lit ","]) (sym "expression")))),
    lit ":", sym "_suite"]),
  ("except_group_clause", sequence [
    lit "except*",
    .seq (sym "expression") (optional (.seq (lit "as") (sym "expression"))),
    lit ":", sym "_suite"]),
  ("finally_clause", sequence [lit "finally", lit ":", sym "_suite"]),
  ("with_statement", sequence [
    optional (lit "async"), lit "with", sym "with_clause", lit ":",
    field "body" (sym "_suite")]),
  ("with_clause", choice [
    .seq (commaSeparated (sym "with_item")) (optional (lit ",")),
    sequence [lit "(", commaSeparated (sym "with_item"), optional (lit ","), lit ")"]]),
  ("with_item", dynamic 1 (field "value" (sym "expression"))),
  ("function_definition", sequence [
    optional (lit "async"), lit "def", field "name" (sym "identifier"),
    field "type_parameters" (optional (sym "type_parameter")),
    field "parameters" (sym "parameters"),
    optional (.seq (lit "->") (field "return_type" (sym "type"))),
    lit ":", field "body" (sym "_suite")]),
  ("parameters", sequence [lit "(", optional (sym "_parameters"), lit ")"]),
  ("lambda_parameters", sym "_parameters"),
  ("list_splat", .seq (lit "*") (sym "expression")),
  ("dictionary_splat", .seq (lit "**") (sym "expression")),
  ("global_statement", .seq (lit "global") (commaSeparated (sym "identifier"))),
  ("nonlocal_statement", .seq (lit "nonlocal") (commaSeparated (sym "identifier"))),
  ("exec_statement", sequence [
    lit "exec", field "code" (choice [sym "string", sym "identifier"]),
    optional (.seq (lit "in") (commaSeparated (sym "expression")))]),
  ("type_alias_statement", dynamic 1 (sequence [
    lit "type", sym "type", lit "=", sym "type"])),
  ("class_definition", sequence [
    lit "class", field "name" (sym "identifier"),
    field "type_parameters" (optional (sym "type_parameter")),
    field "superclasses" (optional (sym "argument_list")),
    lit ":", field "body" (sym "_suite")]),
  ("type_parameter", sequence [
    lit "[", commaSeparated (sym "type"), optional (lit ","), lit "]"]),
  ("parenthesized_list_splat", prec parenthesizedLevel (sequence [
    lit "(",
    choice [
      shownAs ⟨"parenthesized_expression", true⟩ (sym "parenthesized_list_splat"),
      sym "list_splat"],
    lit ")"])),
  ("argument_list", sequence [
    lit "(",
    optional (commaSeparated (choice [
      sym "expression", sym "list_splat", sym "dictionary_splat",
      shownAs ⟨"parenthesized_expression", true⟩ (sym "parenthesized_list_splat"),
      sym "keyword_argument"])),
    optional (lit ","), lit ")"]),
  ("decorated_definition", .seq (oneOrMore (sym "decorator"))
    (field "definition" (choice [sym "class_definition", sym "function_definition"]))),
  ("decorator", sequence [lit "@", sym "expression", sym "_newline"]),
  ("_suite", choice [
    shownAs ⟨"block", true⟩ (sym "_simple_statements"),
    .seq (sym "_indent") (sym "block"),
    shownAs ⟨"block", true⟩ (sym "_newline")]),
  ("block", .seq (many (sym "_statement")) (sym "_dedent")),
  ("expression_list", rightAssoc 0 (.seq (sym "expression")
    (choice [
      lit ",",
      .seq (oneOrMore (.seq (lit ",") (sym "expression"))) (optional (lit ","))]))),
  ("dotted_name", prec 1 (separated (sym "identifier") "."))]

private def commaList (body : Rule String) : Rule String :=
  .seq (commaSeparated body) (optional (lit ","))

private def matchPatternRules : List (String × Rule String) := [
  ("case_pattern", prec 1 (choice [
    shownAs ⟨"as_pattern", true⟩ (sym "_as_pattern"),
    sym "keyword_pattern", sym "_simple_pattern"])),
  ("_simple_pattern", prec 1 (choice [
    sym "class_pattern", sym "splat_pattern", sym "union_pattern",
    shownAs ⟨"list_pattern", true⟩ (sym "_list_pattern"),
    shownAs ⟨"tuple_pattern", true⟩ (sym "_tuple_pattern"),
    sym "dict_pattern", sym "string", sym "concatenated_string",
    sym "true", sym "false", sym "none",
    .seq (optional (lit "-")) (choice [sym "integer", sym "float"]),
    sym "complex_pattern", sym "dotted_name", lit "_"])),
  ("_as_pattern", sequence [sym "case_pattern", lit "as", sym "identifier"]),
  ("union_pattern", rightAssoc 0 (.seq (sym "_simple_pattern")
    (oneOrMore (leftAssoc 0 (.seq (lit "|") (sym "_simple_pattern")))))),
  ("_list_pattern", sequence [lit "[", optional (commaList (sym "case_pattern")), lit "]"]),
  ("_tuple_pattern", sequence [lit "(", optional (commaList (sym "case_pattern")), lit ")"]),
  ("dict_pattern", sequence [
    lit "\x7b",
    optional (commaList (choice [sym "_key_value_pattern", sym "splat_pattern"])),
    lit "\x7d"]),
  ("_key_value_pattern", sequence [
    field "key" (sym "_simple_pattern"), lit ":", field "value" (sym "case_pattern")]),
  ("keyword_pattern", sequence [sym "identifier", lit "=", sym "_simple_pattern"]),
  ("splat_pattern", prec 1 (.seq (choice [lit "*", lit "**"])
    (choice [sym "identifier", lit "_"]))),
  ("class_pattern", sequence [
    sym "dotted_name", lit "(", optional (commaList (sym "case_pattern")), lit ")"]),
  ("complex_pattern", prec 1 (sequence [
    optional (lit "-"), choice [sym "integer", sym "float"],
    choice [lit "+", lit "-"], choice [sym "integer", sym "float"]]))]

private def targetRules : List (String × Rule String) := [
  ("_parameters", commaList (sym "parameter")),
  ("_patterns", commaList (sym "pattern")),
  ("parameter", choice [
    sym "identifier", sym "typed_parameter", sym "default_parameter",
    sym "typed_default_parameter", sym "list_splat_pattern", sym "tuple_pattern",
    sym "keyword_separator", sym "positional_separator", sym "dictionary_splat_pattern"]),
  ("pattern", choice [
    sym "identifier", sym "keyword_identifier", sym "subscript", sym "attribute",
    sym "list_splat_pattern", sym "tuple_pattern", sym "list_pattern"]),
  ("tuple_pattern", sequence [lit "(", optional (sym "_patterns"), lit ")"]),
  ("list_pattern", sequence [lit "[", optional (sym "_patterns"), lit "]"]),
  ("default_parameter", sequence [
    field "name" (choice [sym "identifier", sym "tuple_pattern"]), lit "=",
    field "value" (sym "expression")]),
  ("typed_default_parameter", prec typedParameterLevel (sequence [
    field "name" (sym "identifier"), lit ":", field "type" (sym "type"), lit "=",
    field "value" (sym "expression")])),
  ("list_splat_pattern", .seq (lit "*") (choice [
    sym "identifier", sym "keyword_identifier", sym "subscript", sym "attribute"])),
  ("dictionary_splat_pattern", .seq (lit "**") (choice [
    sym "identifier", sym "keyword_identifier", sym "subscript", sym "attribute"])),
  ("as_pattern", leftAssoc 0 (sequence [
    sym "expression", lit "as",
    field "alias" (shownAs ⟨"as_pattern_target", true⟩ (sym "expression"))]))]

private def binaryOperators : List (Associativity × String × Int) := [
  (.left, "+", plusLevel), (.left, "-", plusLevel), (.left, "*", timesLevel),
  (.left, "@", timesLevel), (.left, "/", timesLevel), (.left, "%", timesLevel),
  (.left, "//", timesLevel), (.right, "**", powerLevel), (.left, "|", bitwiseOrLevel),
  (.left, "&", bitwiseAndLevel), (.left, "^", xorLevel), (.left, "<<", shiftLevel),
  (.left, ">>", shiftLevel)]

private def expressionRules : List (String × Rule String) := [
  ("_expression_within_for_in_clause", choice [
    sym "expression", shownAs ⟨"lambda", true⟩ (sym "lambda_within_for_in_clause")]),
  ("expression", choice [
    sym "comparison_operator", sym "not_operator", sym "boolean_operator",
    sym "lambda", sym "primary_expression", sym "conditional_expression",
    sym "named_expression", sym "as_pattern"]),
  ("primary_expression", choice [
    sym "await", sym "binary_operator", sym "identifier", sym "keyword_identifier",
    sym "string", sym "concatenated_string", sym "integer", sym "float",
    sym "true", sym "false", sym "none", sym "unary_operator", sym "attribute",
    sym "subscript", sym "call", sym "list", sym "list_comprehension",
    sym "dictionary", sym "dictionary_comprehension", sym "set",
    sym "set_comprehension", sym "tuple", sym "parenthesized_expression",
    sym "generator_expression", sym "ellipsis",
    shownAs ⟨"list_splat", true⟩ (sym "list_splat_pattern")]),
  ("not_operator", prec notLevel (.seq (lit "not") (field "argument" (sym "expression")))),
  ("boolean_operator", choice [
    leftAssoc andLevel (sequence [
      field "left" (sym "expression"), field "operator" (lit "and"),
      field "right" (sym "expression")]),
    leftAssoc orLevel (sequence [
      field "left" (sym "expression"), field "operator" (lit "or"),
      field "right" (sym "expression")])]),
  ("binary_operator", choice (binaryOperators.map fun (grouping, operator, level) =>
    precedence level (some grouping) (sequence [
      field "left" (sym "primary_expression"), field "operator" (lit operator),
      field "right" (sym "primary_expression")]))),
  ("unary_operator", prec unaryLevel (.seq
    (field "operator" (choice [lit "+", lit "-", lit "~"]))
    (field "argument" (sym "primary_expression")))),
  ("_not_in", .seq (lit "not") (lit "in")),
  ("_is_not", .seq (lit "is") (lit "not")),
  ("comparison_operator", leftAssoc compareLevel (.seq (sym "primary_expression")
    (oneOrMore (.seq
      (field "operators" (choice [
        lit "<", lit "<=", lit "==", lit "!=", lit ">=", lit ">", lit "<>", lit "in",
        shownAs ⟨"not in", false⟩ (sym "_not_in"), lit "is",
        shownAs ⟨"is not", false⟩ (sym "_is_not")]))
      (sym "primary_expression"))))),
  ("lambda", prec lambdaLevel (sequence [
    lit "lambda", field "parameters" (optional (sym "lambda_parameters")), lit ":",
    field "body" (sym "expression")])),
  ("lambda_within_for_in_clause", sequence [
    lit "lambda", field "parameters" (optional (sym "lambda_parameters")), lit ":",
    field "body" (sym "_expression_within_for_in_clause")]),
  ("assignment", .seq (field "left" (sym "_left_hand_side")) (choice [
    .seq (lit "=") (field "right" (sym "_right_hand_side")),
    .seq (lit ":") (field "type" (sym "type")),
    sequence [lit ":", field "type" (sym "type"), lit "=",
      field "right" (sym "_right_hand_side")]])),
  ("augmented_assignment", sequence [
    field "left" (sym "_left_hand_side"),
    field "operator" (choice (
      ["+=", "-=", "*=", "/=", "@=", "//=", "%=", "**=", ">>=", "<<=", "&=", "^=",
        "|="].map lit)),
    field "right" (sym "_right_hand_side")]),
  ("_left_hand_side", choice [sym "pattern", sym "pattern_list"]),
  ("pattern_list", .seq (sym "pattern") (choice [
    lit ",",
    .seq (oneOrMore (.seq (lit ",") (sym "pattern"))) (optional (lit ","))])),
  ("_right_hand_side", choice [
    sym "expression", sym "expression_list", sym "assignment",
    sym "augmented_assignment", sym "pattern_list", sym "yield"]),
  ("yield", rightAssoc 0 (.seq (lit "yield") (choice [
    .seq (lit "from") (sym "expression"),
    optional (sym "_expressions")]))),
  ("attribute", prec callLevel (sequence [
    field "object" (sym "primary_expression"), lit ".",
    field "attribute" (sym "identifier")])),
  ("subscript", prec callLevel (sequence [
    field "value" (sym "primary_expression"), lit "[",
    commaSeparated (field "subscript" (choice [sym "expression", sym "slice"])),
    optional (lit ","), lit "]"])),
  ("slice", sequence [
    optional (sym "expression"), lit ":", optional (sym "expression"),
    optional (.seq (lit ":") (optional (sym "expression")))]),
  ("ellipsis", lit "..."),
  ("call", prec callLevel (.seq
    (field "function" (sym "primary_expression"))
    (field "arguments" (choice [sym "generator_expression", sym "argument_list"])))),
  ("typed_parameter", prec typedParameterLevel (sequence [
    choice [sym "identifier", sym "list_splat_pattern", sym "dictionary_splat_pattern"],
    lit ":", field "type" (sym "type")])),
  ("type", choice [
    prec 1 (sym "expression"), sym "splat_type", sym "generic_type",
    sym "union_type", sym "constrained_type", sym "member_type"]),
  ("splat_type", prec 1 (.seq (choice [lit "*", lit "**"]) (sym "identifier"))),
  ("generic_type", prec 1 (.seq (sym "identifier") (sym "type_parameter"))),
  ("union_type", leftAssoc 0 (sequence [sym "type", lit "|", sym "type"])),
  ("constrained_type", rightAssoc 0 (sequence [sym "type", lit ":", sym "type"])),
  ("member_type", sequence [sym "type", lit ".", sym "identifier"]),
  ("keyword_argument", sequence [
    field "name" (choice [sym "identifier", sym "keyword_identifier"]), lit "=",
    field "value" (sym "expression")])]

private def literalRules : List (String × Rule String) := [
  ("list", sequence [lit "[", optional (sym "_collection_elements"), lit "]"]),
  ("set", sequence [lit "\x7b", sym "_collection_elements", lit "\x7d"]),
  ("tuple", sequence [lit "(", optional (sym "_collection_elements"), lit ")"]),
  ("dictionary", sequence [
    lit "\x7b",
    optional (commaSeparated (choice [sym "pair", sym "dictionary_splat"])),
    optional (lit ","), lit "\x7d"]),
  ("pair", sequence [
    field "key" (sym "expression"), lit ":", field "value" (sym "expression")]),
  ("list_comprehension", sequence [
    lit "[", field "body" (sym "expression"), sym "_comprehension_clauses", lit "]"]),
  ("dictionary_comprehension", sequence [
    lit "\x7b", field "body" (sym "pair"), sym "_comprehension_clauses", lit "\x7d"]),
  ("set_comprehension", sequence [
    lit "\x7b", field "body" (sym "expression"), sym "_comprehension_clauses",
    lit "\x7d"]),
  ("generator_expression", sequence [
    lit "(", field "body" (sym "expression"), sym "_comprehension_clauses", lit ")"]),
  ("_comprehension_clauses", .seq (sym "for_in_clause")
    (many (choice [sym "for_in_clause", sym "if_clause"]))),
  ("parenthesized_expression", prec parenthesizedLevel (sequence [
    lit "(", choice [sym "expression", sym "yield"], lit ")"])),
  ("_collection_elements", commaList (choice [
    sym "expression", sym "yield", sym "list_splat", sym "parenthesized_list_splat"])),
  ("for_in_clause", leftAssoc 0 (sequence [
    optional (lit "async"), lit "for", field "left" (sym "_left_hand_side"), lit "in",
    field "right" (commaSeparated (sym "_expression_within_for_in_clause")),
    optional (lit ",")])),
  ("if_clause", .seq (lit "if") (sym "expression")),
  ("conditional_expression", rightAssoc conditionalLevel (sequence [
    sym "expression", lit "if", sym "expression", lit "else", sym "expression"])),
  ("concatenated_string", .seq (sym "string") (oneOrMore (sym "string"))),
  ("string", sequence [
    sym "string_start", many (choice [sym "interpolation", sym "string_content"]),
    sym "string_end"]),
  ("string_content", rightAssoc 0 (oneOrMore (choice [
    sym "escape_interpolation", sym "escape_sequence", sym "_not_escape_sequence",
    sym "_string_content"]))),
  ("interpolation", sequence [
    lit "\x7b", field "expression" (sym "_f_expression"), optional (lit "="),
    optional (field "type_conversion" (sym "type_conversion")),
    optional (field "format_specifier" (sym "format_specifier")), lit "\x7d"]),
  ("_f_expression", choice [
    sym "expression", sym "expression_list", sym "pattern_list", sym "yield"]),
  ("escape_sequence", .token escapeSequence),
  ("_not_escape_sequence", .token { Lexeme.literal "\\" with immediate := true }),
  ("format_specifier", .seq (lit ":") (many (choice [
    .token formatText, shownAs ⟨"format_expression", true⟩ (sym "interpolation")]))),
  ("type_conversion", .token (.ofPattern
    (.seq (.oneOf "!") (.letters (.range 'a' 'z'))))),
  ("integer", .token (.ofPattern integer)),
  ("float", .token (.ofPattern float)),
  ("identifier", .token (.ofPattern identifier)),
  ("keyword_identifier", choice [
    prec (-3) (shownAs ⟨"identifier", true⟩
      (choice [lit "print", lit "exec", lit "async", lit "await", lit "match"])),
    shownAs ⟨"identifier", true⟩ (lit "type")]),
  ("true", lit "True"),
  ("false", lit "False"),
  ("none", lit "None"),
  ("await", prec unaryLevel (.seq (lit "await") (sym "primary_expression"))),
  ("comment", .token (.ofPattern comment)),
  ("line_continuation", .token lineContinuation),
  ("positional_separator", lit "/"),
  ("keyword_separator", lit "*")]

/-- The grammar of Python source files. -/
def grammar : Definition where
  rules := simpleStatementRules ++ compoundStatementRules ++ matchPatternRules ++
    targetRules ++ expressionRules ++ literalRules
  extras := ["comment", "line_continuation"]
  blanks
  layoutTokens := [
    sym "_newline", sym "_indent", sym "_dedent", sym "string_start",
    sym "_string_content", sym "escape_interpolation", sym "string_end",
    sym "comment", lit "]", lit ")", lit "\x7d", lit "except"]
  conflicts := [
    ["primary_expression", "pattern"],
    ["primary_expression", "list_splat_pattern"],
    ["tuple", "tuple_pattern"],
    ["list", "list_pattern"],
    ["with_item", "_collection_elements"],
    ["named_expression", "as_pattern"],
    ["print_statement", "primary_expression"],
    ["type_alias_statement", "primary_expression"]]
  supertypes := ["_simple_statement", "_compound_statement", "expression",
    "primary_expression", "pattern", "parameter"]
  inlined := ["_simple_statement", "_compound_statement", "_suite", "_expressions",
    "_left_hand_side", "keyword_identifier"]
  word := "identifier"

end SourceFacts.Python
