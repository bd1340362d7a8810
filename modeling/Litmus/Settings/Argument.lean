import Litmus.Settings.Value

/-!
# Arguments of a command line

An *argument* is what a command line can give a value to. A *switch* has spellings that start with a
dash and stands anywhere; an *operand* has none and is known by its place. The arity tells how many
words belong to an argument.
-/

namespace Litmus.Settings

/-! ## Arity -/

/-- How many words an argument has. -/
inductive Arity where
  | one
  | optional
  | any
  | oneOrMore
  /-- So many words; none if the number is negative. -/
  | exactly (count : Int)
  /-- All words that follow, also those that look like switches. -/
  | rest
  /-- An operand, and all words that follow it. -/
  | command
  /-- No word, and no value either. -/
  | nothing
  /-- What has been given as a number of words is of another shape. -/
  | malformed (shape : String)
deriving DecidableEq

namespace Arity

/-- The arity that a mark stands for. -/
def ofMark : String → Arity
  | "?" => .optional
  | "*" => .any
  | "+" => .oneOrMore
  | "..." => .rest
  | "A..." => .command
  | "==SUPPRESS==" => .nothing
  | mark => .malformed (Value.text mark).shape

/-- Whether an argument may have so many operands and nothing else. -/
def admits : Arity → Nat → Bool
  | .one, n => n == 1
  | .optional, n => n ≤ 1
  | .any, _ => true
  | .oneOrMore, n => 1 ≤ n
  | .exactly count, n => n == count.toNat
  | .rest, _ => true
  | .command, n => 1 ≤ n
  | .nothing, n => n == 0
  | .malformed _, _ => false

/-- The number of operands that an argument takes when so many are there: as many as it may have. -/
def taken? : Arity → (available : Nat) → Option Nat
  | .one, n => if 1 ≤ n then some 1 else none
  | .optional, n => some (min 1 n)
  | .any, n => some n
  | .oneOrMore, n => if 1 ≤ n then some n else none
  | .exactly count, n => if count.toNat ≤ n then some count.toNat else none
  | .rest, n => some n
  | .command, n => if 1 ≤ n then some n else none
  | .nothing, _ => some 0
  | .malformed _, _ => none

/-- The shape of what has been given as a number of words, if it is none. -/
def malformed? : Arity → Option String
  | .malformed shape => some shape
  | _ => none

/-- Whether the words that follow belong to the argument whatever they look like. -/
def takesAll : Arity → Bool
  | .rest | .command => true
  | _ => false

/-- The words of an argument as a value. A separator among them is dropped, unless the argument
takes all words. A single word that may be no more than one is a text, otherwise the words are a
list. -/
def value (arity : Arity) (words : List String) : Value :=
  match arity, if arity.takesAll then words else words.erase "--" with
  | .one, [word] => .text word
  | .optional, [word] => .text word
  | .optional, [] => .absent
  | _, words => .sequence (words.map .text)

end Arity

/-! ## Arguments -/

/-- What an argument does when it is met. -/
inductive Effect where
  /-- Its value becomes this one. -/
  | set (flag : Bool)
  /-- Its value is taken away. -/
  | clear
  /-- Its words become its value. -/
  | store (arity : Arity)
  /-- Its words become one more item of its value. -/
  | append (arity : Arity)
  /-- The absent value becomes one more item of its value. -/
  | appendNothing
  /-- Its words become more items of its value. -/
  | extend (arity : Arity)
  /-- Its value becomes the number of times that it has been met. -/
  | count
  /-- The help text is shown, and nothing else is done. -/
  | showHelp
  /-- A version is to be shown. There is none. -/
  | showVersion
deriving DecidableEq

namespace Effect

/-- The words that belong to an argument with this effect. -/
def arity : Effect → Arity
  | .store arity | .append arity | .extend arity => arity
  | _ => .exactly 0

/-- The items of a value so far. -/
def itemsOf : Value → List Value
  | .sequence items => items
  | _ => []

/-- The items that a value adds: those of a list, and the characters of a text. The absent value has
no items. -/
def addedItems? : Value → Option (List Value)
  | .sequence items => some items
  | .text word => some (word.toList.map fun c => .text c.toString)
  | _ => none

/-- The value of an argument after it has been met once more with these words; it had the value
`old` before. -/
def value? (effect : Effect) (old : Value) (words : List String) : Option Value :=
  match effect with
  | .set flag => some (.flag flag)
  | .clear => some .absent
  | .store .nothing | .append .nothing | .extend .nothing => some old
  | .store arity => some (arity.value words)
  | .append arity => some (.sequence (itemsOf old ++ [arity.value words]))
  | .appendNothing => some (.sequence (itemsOf old ++ [.absent]))
  | .extend arity =>
    (addedItems? (arity.value words)).map fun items => .sequence (itemsOf old ++ items)
  | .count =>
    match old with
    | .number n => some (.number (n + 1))
    | _ => some (.number 1)
  | .showHelp | .showVersion => some old

end Effect

/-- Something that a command line can give a value to. -/
structure Argument where
  /-- The name of the value. -/
  key : String
  /-- The spellings of a switch; an operand has none. -/
  spellings : List String
  effect : Effect
deriving DecidableEq

namespace Argument

/-- Whether an argument is known by its place. -/
def isOperand (argument : Argument) : Bool :=
  argument.spellings.isEmpty

/-- The switch that asks for help. -/
def help : Argument := ⟨"help", ["-h", "--help"], .showHelp⟩

end Argument

/-! ## Spellings -/

/-- The argument that has a spelling. -/
def spelled? (arguments : List Argument) (spelling : List Char) : Option Argument :=
  arguments.find? fun argument => argument.spellings.any (·.toList == spelling)

/-- Digits after a dash, perhaps with a point before or among them; a line feed may follow. -/
def looksNegative (word : List Char) : Bool :=
  match word with
  | '-' :: rest =>
    let rest := if rest.getLast? = some '\n' then rest.dropLast else rest
    match rest.dropWhile Text.isDecimal with
    | [] => !rest.isEmpty
    | '.' :: digits => !digits.isEmpty && digits.all Text.isDecimal
    | _ => false
  | _ => false

/-- Whether some switch looks like a negative number. -/
def hasNegativeSwitch (arguments : List Argument) : Bool :=
  arguments.any fun argument => argument.spellings.any (looksNegative ·.toList)

end Litmus.Settings
