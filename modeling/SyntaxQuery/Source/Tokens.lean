import SyntaxQuery.Source.Node
import SyntaxQuery.Text.Blank

/-!
Contract: a tree for source text that no grammar knows.

Owns:
- the lexemes of a text and the nodes they make: words, numbers, strings and single characters;
- the groups that brackets make, and the `ERROR` node for what cannot be a sequence of statements.

Does not own: the grammar of any language. Every text has a tree, so no text is refused.
-/

namespace SyntaxQuery.SyntaxTree

/-- A place in a text: the bytes and the line ends before it. -/
structure Place where
  offset : Nat
  row : Nat
deriving DecidableEq, Repr

/-- The place after some characters. -/
def Place.after (place : Place) (characters : List Char) : Place where
  offset := characters.foldl (fun total character => total + character.utf8Size) place.offset
  row := place.row + characters.count '\n'

/-- The tree for a stretch of text in no grammar field. It has an error below it when one of its
children has. -/
def ofStretch (kind : String) (named : Bool) (start stop : Place) (children : List SyntaxTree) :
    SyntaxTree :=
  .branch {
    kind := kind
    field? := none
    named := named
    start := start.offset
    stop := stop.offset
    row := start.row
    isError := false
    isMissing := false
    hasError := children.any fun child => child.info.hasError } children

/-- The lexemes of a text, by their first character. -/
inductive Lexeme where
  | word (text : List Char)
  | number (text : List Char)
  /-- A string with its quotes; the last is missing where the text ends within it. -/
  | quoted (text : List Char)
  | single (character : Char)
deriving DecidableEq, Repr

def Lexeme.text : Lexeme → List Char
  | .word text => text
  | .number text => text
  | .quoted text => text
  | .single character => [character]

/-- Whether a character can stand in a word; letters and digits are those of ASCII. -/
def isWordChar (character : Char) : Bool :=
  character.isAlphanum || character == '_'

/-- What continues a number, given the character before: word characters, points, and a sign after
the letter of an exponent. -/
def numberTail (before : Char) : List Char → List Char
  | [] => []
  | character :: rest =>
      let sign := character == '+' || character == '-'
      let exponent := before == 'e' || before == 'E'
      if isWordChar character || character == '.' || (sign && exponent) then
        character :: numberTail character rest
      else []

/-- What continues a string up to its closing quote; a backslash keeps the character after it. -/
def quotedTail : List Char → List Char
  | [] => []
  | ['\\'] => ['\\']
  | '\\' :: escaped :: rest => '\\' :: escaped :: quotedTail rest
  | '"' :: _ => ['"']
  | character :: rest => character :: quotedTail rest

/-- The lexeme at the start of a text. -/
def lexemeAt (first : Char) (rest : List Char) : Lexeme :=
  if first = '"' then .quoted (first :: quotedTail rest)
  else if first.isDigit then .number (first :: numberTail first rest)
  else if isWordChar first then .word (first :: rest.takeWhile isWordChar)
  else .single first

/-- A lexeme has at least one character. -/
theorem length_text_lexemeAt_pos (first : Char) (rest : List Char) :
    0 < (lexemeAt first rest).text.length := by
  unfold lexemeAt
  repeat' split
  all_goals simp [Lexeme.text]

/-- The children of a string: its quotes, its escapes, and the stretches between. `held` is the
stretch in the making, last first, and `start` is its place. -/
def stringParts (start : Place) (held : List Char) : Place → List Char → List SyntaxTree
  | place, [] => content start place held
  | place, '\\' :: escaped :: rest =>
      let stop := place.after ['\\', escaped]
      content start place held ++
        ofStretch "escape_sequence" true place stop [] :: stringParts stop [] stop rest
  | place, '"' :: rest =>
      let stop := place.after ['"']
      content start place held ++
        ofStretch "\"" false place stop [] :: stringParts stop [] stop rest
  | place, character :: rest =>
      stringParts start (character :: held) (place.after [character]) rest
where
  /-- The node for a stretch that is not empty. -/
  content (start stop : Place) : List Char → List SyntaxTree
    | [] => []
    | _ :: _ => [ofStretch "string_content" true start stop []]

def ofLexeme (place : Place) (lexeme : Lexeme) : SyntaxTree :=
  let stop := place.after lexeme.text
  match lexeme with
  | .word text =>
      if text = "true".toList ∨ text = "false".toList then
        ofStretch "boolean_literal" true place stop
          [ofStretch (String.ofList text) false place stop []]
      else ofStretch "identifier" true place stop []
  | .number text =>
      let fractional := text.contains '.' || text.contains '+' || text.contains '-'
      ofStretch (if fractional then "float_literal" else "integer_literal") true place stop []
  | .quoted text => ofStretch "string_literal" true place stop (stringParts place [] place text)
  | .single character => ofStretch (String.singleton character) false place stop []

/-- The trees of the lexemes of a text that starts at a place. Blanks stand between lexemes. -/
def lexemeTrees (place : Place) : List Char → List SyntaxTree
  | [] => []
  | first :: rest =>
      if Text.isBlank first then lexemeTrees (place.after [first]) rest
      else
        let lexeme := lexemeAt first rest
        ofLexeme place lexeme ::
          lexemeTrees (place.after lexeme.text) ((first :: rest).drop lexeme.text.length)
termination_by text => text.length
decreasing_by
  · simp
  · have nonempty := length_text_lexemeAt_pos first rest
    simp only [List.length_drop, List.length_cons]
    omega

/-- The brackets: what opens a group, what closes it, and the kind of the group. -/
def brackets : List (String × String × String) :=
  [("\x7b", "\x7d", "block"), ("[", "]", "array_expression"),
    ("(", ")", "parenthesized_expression")]

/-- The place where a tree starts. -/
def startPlace (tree : SyntaxTree) : Place := ⟨tree.info.start, tree.info.row⟩

/-- Some trees, in order, as the content of a sequence of statements. Statements are not separated by
commas or colons, so content with one of those is an error. -/
def statements (content : List SyntaxTree) : List SyntaxTree :=
  let separated := content.any fun tree => tree.info.kind == "," || tree.info.kind == ":"
  match content with
  | [] => []
  | first :: _ =>
      if separated then
        let stop := (content.getLast?.getD first).info.stop
        [.branch {
          kind := "ERROR"
          field? := none
          named := true
          start := first.info.start
          stop := stop
          row := first.info.row
          isError := true
          isMissing := false
          hasError := true } content]
      else content

/-- A group in the making: its opening bracket, what closes it, its kind, and its content so far, last
first. -/
structure OpenGroup where
  opening : SyntaxTree
  closing : String
  kind : String
  content : List SyntaxTree

/-- The tree of a group with its closing bracket, which may be missing at the end of a text. -/
def OpenGroup.close (group : OpenGroup) (closing : List SyntaxTree) : SyntaxTree :=
  let inner := group.content.reverse
  let inner := if group.kind = "block" then statements inner else inner
  let all := group.opening :: inner ++ closing
  let stop := (all.getLast?.getD group.opening).info.stop
  ofStretch group.kind true group.opening.startPlace ⟨stop, 0⟩ all

/-- The groups that are open, innermost first, and the content outside of them, last first. -/
structure Grouping where
  groups : List OpenGroup
  content : List SyntaxTree

namespace Grouping

/-- Adds a tree to the innermost content. -/
def add (state : Grouping) (tree : SyntaxTree) : Grouping :=
  match state.groups with
  | [] => ⟨[], tree :: state.content⟩
  | group :: outer => ⟨{ group with content := tree :: group.content } :: outer, state.content⟩

/-- Reads the tree of a lexeme: an opening bracket starts a group, and the matching closing bracket
ends it. Any other closing bracket is a character like others. -/
def read (state : Grouping) (tree : SyntaxTree) : Grouping :=
  match brackets.lookup tree.info.kind, state.groups with
  | some (closing, kind), groups => ⟨⟨tree, closing, kind, []⟩ :: groups, state.content⟩
  | none, group :: outer =>
      if group.closing = tree.info.kind then add ⟨outer, state.content⟩ (group.close [tree])
      else state.add tree
  | none, [] => state.add tree

/-- The content, in order, when the groups that are still open end with the text. -/
def finish (state : Grouping) : List SyntaxTree :=
  let outermost := state.groups.foldl
    (fun (inner : List SyntaxTree) group =>
      [OpenGroup.close { group with content := inner ++ group.content } []]) []
  (outermost ++ state.content).reverse

end Grouping

/-- The tree of a text by its tokens and brackets alone. It starts at the first token. -/
def ofTokens (text : String) : SyntaxTree :=
  let content := ((lexemeTrees ⟨0, 0⟩ text.toList).foldl Grouping.read ⟨[], []⟩).finish
  let stop := Place.after ⟨0, 0⟩ text.toList
  let start := (content.head?.map startPlace).getD stop
  ofStretch "source_file" true start stop (statements content)

end SyntaxQuery.SyntaxTree
