import Litmus.Settings.Argument
import Litmus.Text.Space

/-!
# Synopses

The *synopsis* of a command line shows what it may hold: first the switches, each in brackets, then
the operands, with placeholders for the words of each argument.

A synopsis that is too long for one line is broken between its *parts*: what stands in brackets, and
single words. The parts have to make up the text again, with a single blank between neighbours. An
operand without words leaves a gap between its neighbours, so a long synopsis with such a gap cannot
be written.

* `synopsis` is the text.
* `hasSynopsis` tells whether it can be written.
-/

namespace Litmus.Settings

open Litmus.Text

/-! ## The text -/

/-- The placeholders for the words of an argument. -/
def Arity.placeholders (name : String) : Arity → String
  | .one => name
  | .optional => "[" ++ name ++ "]"
  | .any => "[" ++ name ++ " ...]"
  | .oneOrMore => name ++ " [" ++ name ++ " ...]"
  | .exactly count => String.intercalate " " (List.replicate count.toNat name)
  | .rest => "..."
  | .command => name ++ " ..."
  | .nothing | .malformed _ => ""

/-- An argument as the synopsis shows it. -/
def Argument.shown (argument : Argument) : String :=
  let arity := argument.effect.arity
  match argument.spellings with
  | [] => arity.placeholders argument.key
  | spelling :: _ =>
    if arity = .exactly 0 then "[" ++ spelling ++ "]"
    else "[" ++ spelling ++ " " ++ arity.placeholders argument.key.toUpper ++ "]"

/-- An opening bracket. -/
def isOpening (c : Char) : Bool := c == '[' || c == '('

/-- A closing bracket. -/
def isClosing (c : Char) : Bool := c == ']' || c == ')'

/-- The text without the blanks behind opening brackets. -/
def tightenOpening : List Char → List Char
  | c :: ' ' :: s => if isOpening c then c :: tightenOpening s else c :: tightenOpening (' ' :: s)
  | c :: s => c :: tightenOpening s
  | [] => []

/-- The text without the blanks in front of closing brackets. -/
def tightenClosing : List Char → List Char
  | ' ' :: c :: s => if isClosing c then c :: tightenClosing s else ' ' :: tightenClosing (c :: s)
  | c :: s => c :: tightenClosing s
  | [] => []

/-- The text without the brackets that hold nothing, or blanks only. -/
def dropEmptyBrackets (s : List Char) : List Char :=
  match s with
  | [] => []
  | c :: s =>
    match _h : s.dropWhile (· == ' ') with
    | d :: rest =>
      if isOpening c && isClosing d then dropEmptyBrackets rest else c :: dropEmptyBrackets s
    | [] => c :: dropEmptyBrackets s
termination_by s.length
decreasing_by
  · have : (s.dropWhile (· == ' ')).length ≤ s.length := (List.dropWhile_suffix _).length_le
    rw [_h] at this
    simp only [List.length_cons] at this ⊢
    omega
  all_goals simp

/-- Some arguments as the synopsis shows them, with nothing loose in the brackets. -/
def shownAll (arguments : List Argument) : List Char :=
  let shown := (String.intercalate " " (arguments.map Argument.shown)).toList
  trim (dropEmptyBrackets (tightenClosing (tightenOpening shown)))

/-- The name of the program that the command line belongs to. -/
def programName : String := "litmus"

/-- The synopsis of a command line with these arguments. -/
def synopsis (arguments : List Argument) : String :=
  let (operands, switches) := arguments.partition Argument.isOperand
  "usage: " ++ programName ++ " " ++ String.ofList (shownAll (switches ++ operands))

/-! ## Breaking it -/

/-- The text after a part in brackets: the first closing bracket that ends a word closes it. -/
def afterBracketed? (closing : Char) : List Char → Option (List Char)
  | [] => none
  | c :: s =>
    if c = closing ∧ s.head?.all isSpace then some s
    else if c = '\n' then none
    else afterBracketed? closing s

/-- The text after its first part, of which the first character is given. -/
def afterPart (first : Char) (s : List Char) : List Char :=
  let afterWord := s.dropWhile (!isSpace ·)
  match first with
  | '[' => (afterBracketed? ']' s).getD afterWord
  | '(' => (afterBracketed? ')' s).getD afterWord
  | _ => afterWord

theorem length_afterBracketed? {closing : Char} {s rest : List Char}
    (h : afterBracketed? closing s = some rest) : rest.length ≤ s.length := by
  fun_induction afterBracketed? closing s with
  | case1 => simp at h
  | case2 c s _ =>
    obtain rfl := Option.some.inj h
    simp
  | case3 => simp at h
  | case4 c s _ _ ih =>
    have := ih h
    simp only [List.length_cons]
    omega

theorem length_afterPart (first : Char) (s : List Char) :
    (afterPart first s).length ≤ s.length := by
  have hword : (s.dropWhile (!isSpace ·)).length ≤ s.length :=
    (List.dropWhile_suffix _).length_le
  have hbracket (closing : Char) :
      ((afterBracketed? closing s).getD (s.dropWhile (!isSpace ·))).length ≤ s.length := by
    cases h : afterBracketed? closing s with
    | none => exact hword
    | some rest => exact length_afterBracketed? h
  unfold afterPart
  split
  · exact hbracket _
  · exact hbracket _
  · exact hword

/-- Whether a text is made up of parts with single blanks between them. -/
def isBreakable (s : List Char) : Bool :=
  match s with
  | [] => true
  | c :: s =>
    !isSpace c &&
      match _h : afterPart c s with
      | [] => true
      | ' ' :: d :: rest => isBreakable (d :: rest)
      | _ => false
termination_by s.length
decreasing_by
  have := length_afterPart c s
  rw [_h] at this
  simp only [List.length_cons] at this ⊢
  omega

/-- The length of a line. -/
def lineLength : Nat := 78

/-- Whether the synopsis of a command line fits on a line or can be broken. -/
def hasSynopsis (arguments : List Argument) : Bool :=
  let (operands, switches) := arguments.partition Argument.isOperand
  (synopsis arguments).length ≤ lineLength
    || isBreakable (shownAll switches) && isBreakable (shownAll operands)

end Litmus.Settings
