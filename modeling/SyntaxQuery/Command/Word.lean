/-!
Contract: the words of a command line as options and operands.

Owns:
- the spellings of an option: a long name after two dashes, or a letter in a cluster after one;
- the places of a value: after an equals sign, after the letter, or in the next word;
- the word that ends the options.

Does not own: which options there are and what they mean.
-/

namespace SyntaxQuery.Command

/-- The spellings of an option, and whether it takes a value. -/
structure OptionForm (ο : Type) where
  option : ο
  long : String
  letter? : Option Char
  takesValue : Bool

/-- What words say, piece by piece. A fault is a piece that no command accepts. -/
inductive Item (ο : Type) where
  | flag (option : ο)
  | setting (option : ο) (value : String)
  | operand (word : String)
  | fault
deriving DecidableEq, Repr

variable {ο : Type}

/-- What an option after two dashes says, and the option that still waits for its value. -/
def longItems (forms : List (OptionForm ο)) (text : List Char) : List (Item ο) × Option ο :=
  let name := String.ofList (text.takeWhile (· != '='))
  match forms.find? (fun form => form.long == name) with
  | none => ([.fault], none)
  | some form =>
      match form.takesValue, text.dropWhile (· != '=') with
      | true, [] => ([], some form.option)
      | true, _ :: value => ([.setting form.option (String.ofList value)], none)
      | false, [] => ([.flag form.option], none)
      | false, _ :: _ => ([.fault], none)

/-- What a cluster of letters says, and the option that still waits for its value. The first letter
of an option with a value ends the cluster: what is left is the value, an equals sign before it
apart. -/
def clusterItems (forms : List (OptionForm ο)) : List Char → List (Item ο) × Option ο
  | [] => ([], none)
  | letter :: rest =>
      match forms.find? (fun form => form.letter? == some letter) with
      | none => ([.fault], none)
      | some form =>
          if form.takesValue then
            match rest with
            | [] => ([], some form.option)
            | '=' :: value => ([.setting form.option (String.ofList value)], none)
            | value => ([.setting form.option (String.ofList value)], none)
          else
            let (items, waiting?) := clusterItems forms rest
            (.flag form.option :: items, waiting?)

/-- The shapes of a word. A dash alone is an operand. -/
inductive WordShape (ο : Type) where
  | operand
  | endOfOptions
  | options (items : List (Item ο)) (waiting? : Option ο)

/-- The shape of a word where options are allowed. -/
def shapeOf (forms : List (OptionForm ο)) (word : String) : WordShape ο :=
  match word.toList with
  | ['-', '-'] => .endOfOptions
  | '-' :: '-' :: text =>
      let (items, waiting?) := longItems forms text
      .options items waiting?
  | '-' :: letter :: text =>
      let (items, waiting?) := clusterItems forms (letter :: text)
      .options items waiting?
  | _ => .operand

/-- What words say when an option may wait for its value. Only a word with the shape of an operand
can be a value in the next word. -/
def itemsAfter (forms : List (OptionForm ο)) : Option ο → List String → List (Item ο)
  | none, [] => []
  | some _, [] => [.fault]
  | waiting?, word :: rest =>
      match waiting?, shapeOf forms word with
      | some option, .operand => .setting option word :: itemsAfter forms none rest
      | some _, _ => [.fault]
      | none, .operand => .operand word :: itemsAfter forms none rest
      | none, .endOfOptions => rest.map Item.operand
      | none, .options items next? => items ++ itemsAfter forms next? rest

/-- What the words of a command say. -/
def items (forms : List (OptionForm ο)) (words : List String) : List (Item ο) :=
  itemsAfter forms none words

/-- What the words in front of a command say, and the command's name with the words after it. There
are no operands in front of a command, so an end of options is a fault. -/
def leadingItems (forms : List (OptionForm ο)) : List String → List (Item ο) × List String
  | [] => ([], [])
  | word :: rest =>
      match shapeOf forms word with
      | .operand => ([], word :: rest)
      | .endOfOptions => ([.fault], [])
      | .options items _ =>
          let (others, command) := leadingItems forms rest
          (items ++ others, command)

end SyntaxQuery.Command
