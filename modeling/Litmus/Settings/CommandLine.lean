import Litmus.Settings.Declaration
import Litmus.Settings.Synopsis

/-!
# Command lines

A command line is a list of words. First every word is classified: it is an operand, a switch, the
separator `--` (all words after it are operands), or unknown. Then the words are dealt out from left
to right:

* a switch takes the operands behind it that its arity asks for, or the text attached to it. If it
  is spelled with one dash and has no words, the attached text spells further switches;
* a run of operands in front of a switch or at the end goes to the operand arguments that are still
  waiting: to as many of them as can have a share, each as many words as possible. An argument that
  takes all words takes the switches behind its operands, too.

A word left over, a missing word or argument, or an abbreviation of several switches makes the
command line unusable. Asking for help ends the reading at once.
-/

namespace Litmus.Settings

/-! ## Endings -/

/-- Why a command line cannot be read to its end. -/
inductive CommandFault where
  /-- A version has been asked for. -/
  | noVersion
  /-- Nothing is to be added to a list. -/
  | nothingToAdd
  /-- A switch is a dash alone, and something is attached to it. -/
  | bareDash
  /-- An argument with a malformed arity is to get its words. -/
  | malformedArity (shape : String)
  /-- The use of the command line cannot be described: an arity is malformed. -/
  | indescribable
  /-- The use of the command line cannot be described: the synopsis cannot be broken. -/
  | unbreakable

/-- The wording of a fault. -/
def CommandFault.message : CommandFault → String
  | .noVersion => "'LitSMTArgParser' object has no attribute 'version'"
  | .nothingToAdd => "'NoneType' object is not iterable"
  | .bareDash => "string index out of range"
  | .malformedArity shape => "can't multiply sequence by non-int of type '" ++ shape ++ "'"
  | .indescribable => "invalid nargs value"
  | .unbreakable => ""

/-- How the reading of a command line can end without values. -/
inductive Ending where
  /-- Help was asked for. -/
  | help
  /-- The words do not make sense. -/
  | usage
  | fault (fault : CommandFault)

/-! ## Words -/

/-- A word that is a switch: the argument, the spelling that was meant and the text attached to it
in the same word. -/
structure Mention where
  argument : Argument
  spelling : List Char
  attached : Option (List Char)

/-- A classified word. -/
inductive Word where
  | operand (text : String)
  | separator
  | switch (text : String) (mention : Mention)
  /-- The word looks like a switch and is none. -/
  | unknown (text : String)

namespace Word

/-- Whether the word goes to the operand arguments. -/
def isPlain : Word → Bool
  | .operand _ | .separator => true
  | .switch _ _ | .unknown _ => false

/-- Whether the word is an operand. -/
def isOperand : Word → Bool
  | .operand _ => true
  | _ => false

/-- Whether the word is the separator. -/
def isSeparator : Word → Bool
  | .separator => true
  | _ => false

/-- The text of a word. -/
def text : Word → String
  | .operand text | .switch text _ | .unknown text => text
  | .separator => "--"

end Word

/-- The part of a word before its first equals sign, and the part after it if there is one. -/
def splitEquals (word : List Char) : List Char × Option (List Char) :=
  (word.takeWhile (· != '='),
    match word.dropWhile (· != '=') with
    | [] => none
    | _ :: rest => some rest)

/-- Every switch that a word may abbreviate. A word with two dashes abbreviates what it is the start
of, the part after an equals sign apart. A word with one dash is the start of a spelling, or a
two-character spelling with a text attached. -/
def abbreviated (arguments : List Argument) (word : List Char) : List Mention :=
  let candidates := arguments.flatMap fun argument =>
    argument.spellings.map fun spelling => (argument, spelling.toList)
  match word with
  | '-' :: '-' :: _ =>
    let (start, value?) := splitEquals word
    candidates.filterMap fun (argument, spelling) =>
      if start.isPrefixOf spelling then some ⟨argument, spelling, value?⟩ else none
  | '-' :: c :: rest =>
    candidates.filterMap fun (argument, spelling) =>
      if spelling = ['-', c] then some ⟨argument, spelling, some rest⟩
      else if word.isPrefixOf spelling then some ⟨argument, spelling, none⟩
      else none
  | _ => []

/-- What a word is that starts with a dash and is neither an exact spelling nor a dash alone. -/
def classifyDashed (arguments : List Argument) (word : List Char) : Except Ending Word :=
  match splitEquals word with
  | (start, some value) =>
    match spelled? arguments start with
    | some argument => .ok (.switch (String.ofList word) ⟨argument, start, some value⟩)
    | none => search
  | (_, none) => search
where
  /-- The word as an abbreviation, a negative number, a text with a blank, or unknown. -/
  search : Except Ending Word :=
    match abbreviated arguments word with
    | [mention] => .ok (.switch (String.ofList word) mention)
    | _ :: _ :: _ => .error .usage
    | [] =>
      if looksNegative word && !hasNegativeSwitch arguments then .ok (.operand (String.ofList word))
      else if word.contains ' ' then .ok (.operand (String.ofList word))
      else .ok (.unknown (String.ofList word))

/-- What a word in front of the separator is. -/
def classify (arguments : List Argument) (word : String) : Except Ending Word :=
  match word.toList with
  | '-' :: rest =>
    match spelled? arguments ('-' :: rest) with
    | some argument => .ok (.switch word ⟨argument, '-' :: rest, none⟩)
    | none => if rest.isEmpty then .ok (.operand word) else classifyDashed arguments ('-' :: rest)
  | _ => .ok (.operand word)

/-- The classified words of a command line. -/
def classifyAll (arguments : List Argument) : List String → Except Ending (List Word)
  | [] => .ok []
  | word :: words =>
    if word = "--" then .ok (.separator :: words.map .operand)
    else do
      let first ← classify arguments word
      let others ← classifyAll arguments words
      return first :: others

/-! ## Dealing out operands -/

/-- Arguments with the words they have got. -/
abbrev Shares := List (Argument × List String)

/-- Whether these words can be the share of an operand argument. -/
def Arity.fits (arity : Arity) (words : List Word) : Bool :=
  match arity with
  | .rest => true
  | .command => ((words.dropWhile Word.isSeparator).head?).any Word.isOperand
  | arity => words.all Word.isPlain && arity.admits (words.countP Word.isOperand)

/-- Shares of the first words for all these arguments, and the number of words that are given away.
Each argument gets as many words as it can without leaving a later one short. -/
def deal : List Argument → List Word → Option (Shares × Nat)
  | [], _ => some ([], 0)
  | argument :: arguments, words =>
    (List.range (words.length + 1)).reverse.findSome? fun n =>
      if argument.effect.arity.fits (words.take n) then
        (deal arguments (words.drop n)).map fun (shares, count) =>
          ((argument, (words.take n).map Word.text) :: shares, n + count)
      else none

/-- Shares of the first words for as many of the waiting arguments as can all have one, the number
of words that are given away, and the arguments that go on waiting. -/
def dealOut (waiting : List Argument) (words : List Word) :
    Except Ending (Shares × Nat × List Argument) :=
  match waiting.findSome? fun argument => argument.effect.arity.malformed? with
  | some shape => .error (.fault (.malformedArity shape))
  | none =>
    let attempt := (List.range waiting.length).reverse.findSome? fun n =>
      (deal (waiting.take (n + 1)) words).map fun (shares, count) =>
        (shares, count, waiting.drop (n + 1))
    .ok (attempt.getD ([], 0, waiting))

/-! ## Switches -/

/-- The number of words that a switch takes from those behind it. -/
def Arity.uptake? (arity : Arity) (following : List Word) : Option Nat :=
  match arity with
  | .rest => some (following.takeWhile (!·.isSeparator)).length
  | .command =>
    if following.head?.any Word.isOperand then
      some (following.takeWhile (!·.isSeparator)).length
    else none
  | arity => arity.taken? (following.takeWhile Word.isOperand).length

/-- The shares of a switch and of those that are spelled by the text attached to it, and the number
of words that are taken from those behind it. -/
def takeSwitch (arguments : List Argument) (following : List Word) (argument : Argument)
    (spelling : List Char) : (attached : Option (List Char)) → Except Ending (Shares × Nat)
  | none =>
    match argument.effect.arity.malformed?, argument.effect.arity.uptake? following with
    | some shape, _ => .error (.fault (.malformedArity shape))
    | none, some n => .ok ([(argument, (following.take n).map Word.text)], n)
    | none, none => .error .usage
  | some text =>
    match argument.effect.arity.malformed?, argument.effect.arity.taken? 1 with
    | some shape, _ => .error (.fault (.malformedArity shape))
    | none, some 0 =>
      match spelling[1]?, text with
      | none, _ => .error (.fault .bareDash)
      | some '-', _ | _, [] => .error .usage
      | some _, c :: rest =>
        match spelled? arguments ['-', c] with
        | none => .error .usage
        | some next => do
          let attached := if rest.isEmpty then none else some rest
          let (shares, n) ← takeSwitch arguments following next ['-', c] attached
          return ((argument, []) :: shares, n)
    -- The attached text is the only word; those behind are not looked at.
    | none, some _ => .ok ([(argument, [String.ofList text])], 0)
    | none, none => .error .usage
termination_by attached => attached.elim 0 (·.length + 1)
decreasing_by
  simp only [List.length_cons, Option.elim_some]
  split <;> simp only [Option.elim_none, Option.elim_some] <;> omega

/-! ## Reading -/

/-- The values given so far, the last first, and whether a word is left over. -/
structure Progress where
  given : List (String × Value) := []
  leftover : Bool := false

namespace Progress

/-- The value that a key has so far. -/
def value (progress : Progress) (key : String) : Value :=
  (progress.given.lookup key).getD .absent

/-- The values after an argument has got its words. Asking for help or a version ends the
reading. -/
def meet (progress : Progress) (argument : Argument) (words : List String) :
    Except Ending Progress :=
  match argument.effect, argument.effect.value? (progress.value argument.key) words with
  | .showHelp, _ => .error .help
  | .showVersion, _ => .error (.fault .noVersion)
  | _, none => .error (.fault .nothingToAdd)
  | _, some value => .ok { progress with given := (argument.key, value) :: progress.given }

/-- The values after these arguments have got their words. -/
def store (progress : Progress) (shares : Shares) : Except Ending Progress :=
  shares.foldlM (fun progress (argument, words) => progress.meet argument words) progress

/-- The progress with one more word left over, if there is one. -/
def leave (progress : Progress) (leftover : Bool) : Progress :=
  { progress with leftover := progress.leftover || leftover }

end Progress

/-- The values after the given words, of which some may be switches. -/
def readWords (arguments waiting : List Argument) (words : List Word) (progress : Progress) :
    Except Ending Progress :=
  if words.all Word.isPlain then do
    -- This is the last run of operands: whoever goes on waiting gets nothing.
    let (shares, count, waiting) ← dealOut waiting words
    let progress ← progress.store shares
    if !waiting.isEmpty then throw .usage
    return progress.leave (count < words.length)
  else
    match words with
    | [] => .ok progress
    | .unknown _ :: following => readWords arguments waiting following (progress.leave true)
    | .switch _ mention :: following => do
      let (shares, count) ←
        takeSwitch arguments following mention.argument mention.spelling mention.attached
      let progress ← progress.store shares
      readWords arguments waiting (following.drop count) progress
    | word :: following => do
      let (shares, count, waiting) ← dealOut waiting (word :: following)
      let progress ← progress.store shares
      if count = 0 then
        -- Nobody takes the run, so all of it is left over.
        readWords arguments waiting (following.dropWhile Word.isPlain) (progress.leave true)
      else readWords arguments waiting (following.drop (count - 1)) progress
termination_by words.length
decreasing_by
  · simp only [List.length_cons]
    omega
  · simp only [List.length_drop, List.length_cons]
    omega
  · exact Nat.lt_succ_of_le (List.dropWhile_suffix _).length_le
  · simp only [List.length_drop, List.length_cons]
    omega

/-- An ending with a description of the use of the command line, if there can be one. -/
def Ending.described (arguments : List Argument) : Ending → Ending
  | .fault cause => .fault cause
  | ending =>
    if arguments.any (·.effect.arity.malformed?.isSome) then .fault .indescribable
    else if hasSynopsis arguments then ending
    else .fault .unbreakable

/-- The values that a command line gives, each with the key of its option, the last one first. -/
def readCommandLine (arguments : List Argument) (words : List String) :
    Except Ending (List (String × Value)) :=
  Except.mapError (Ending.described arguments) do
    let words ← classifyAll arguments words
    let progress ← readWords arguments (arguments.filter Argument.isOperand) words {}
    if progress.leftover then throw .usage
    return progress.given

end Litmus.Settings
