import Litmus.Text.Lines
import Litmus.Text.Space

/-!
# Configuration files

A configuration file has sections `[name]` with entries `key = value` or `key: value`.

* A line that starts with `#` or `;` is a comment; a line that is indented further than the last
  header or entry continues the value of the entry above it, and so does a blank line.
* Every section also has the entries of the section `DEFAULT` that it does not have itself.
* In a value, `%(key)s` stands for the value of another entry, and `%%` for a percent sign.

`Ini.ofText` reads a file, `Ini.entries?` gives the entries of a section with their values written
out.
-/

namespace Litmus.Settings

open Litmus.Text

/-! ## Files -/

/-- Why a configuration file has no meaning. -/
inductive IniFault where
  /-- An entry stands above the first header. -/
  | noHeader
  | repeatedSection
  | repeatedKey
  /-- Some line is no entry, or an entry without a key. -/
  | notAnEntry
  /-- A percent sign is followed by something else than it may be followed by. -/
  | badReference
  | unknownReference
  /-- A value refers to values that refer to values, and so on for too many steps. -/
  | deepReference
deriving DecidableEq

/-- The entries of a section, in order. -/
abbrev Entries := List (String × List Char)

/-- The sections of a configuration file. -/
abbrev Ini := List (String × Entries)

/-- The section whose entries belong to all sections. -/
def defaultSection : String := "DEFAULT"

/-! ## Lines -/

/-- What a line is that is neither blank nor a comment nor a continuation. -/
inductive IniLine where
  | header (name : String)
  | entry (key : String) (value : List Char)
  | other

/-- The name in a header: what is between the bracket at the start and the last closing one. -/
def headerName? (line : List Char) : Option String :=
  match line with
  | '[' :: rest =>
    match rest.reverse.dropWhile (· != ']') with
    | _ :: c :: name => some (String.ofList (c :: name).reverse)
    | _ => none
  | _ => none

/-- A character between a key and its value. -/
def isDelimiter (c : Char) : Bool :=
  c == '=' || c == ':'

/-- What a trimmed line is. -/
def iniLine (line : List Char) : IniLine :=
  match headerName? line with
  | some name => .header name
  | none =>
    match line.dropWhile (!isDelimiter ·) with
    | [] => .other
    | _ :: value =>
      .entry (String.ofList (trimEnd (line.takeWhile (!isDelimiter ·)))) (trim value)

/-! ## Reading -/

/-- A section that is being read; the lines of each value are kept apart. -/
structure OpenSection where
  name : String
  entries : List (String × List (List Char))

/-- What has been read of a file. -/
structure IniState where
  /-- The sections that are closed. -/
  closed : List OpenSection := []
  /-- The section that lines go to. -/
  current : Option OpenSection := none
  /-- The entry that a continuation belongs to. -/
  key : Option String := none
  /-- The indentation of the last header or entry. -/
  indentation : Nat := 0
  hasOtherLines : Bool := false

namespace OpenSection

/-- The section with one more line of the value of an entry. -/
def addLine (s : OpenSection) (key : String) (line : List Char) : OpenSection :=
  { s with
    entries := s.entries.map fun (k, lines) =>
      if k = key then (k, lines ++ [line]) else (k, lines) }

end OpenSection

namespace IniState

/-- The state with one more line of the value that is being read, if there is one. -/
def addLine (state : IniState) (line : List Char) : IniState :=
  match state.current, state.key with
  | some s, some key => { state with current := some (s.addLine key line) }
  | _, _ => state

/-- All sections. -/
def sections (state : IniState) : List OpenSection :=
  state.closed ++ state.current.toList

/-- The state after a header. A section may occur once, except that of the defaults, which is taken
up again. -/
def openSection (state : IniState) (name : String) : Except IniFault IniState :=
  match state.sections.find? (·.name == name) with
  | none => .ok { state with closed := state.sections, current := some ⟨name, []⟩, key := none }
  | some s =>
    if name = defaultSection then
      .ok { state with
        closed := state.sections.filter (·.name != name), current := some s, key := none }
    else .error .repeatedSection

/-- The state after an entry. -/
def addEntry (state : IniState) (s : OpenSection) (key : String) (value : List Char) :
    Except IniFault IniState :=
  if (s.entries.lookup key).isSome then .error .repeatedKey
  else
    .ok { state with
      current := some { s with entries := s.entries ++ [(key, [value])] }
      key := if key.isEmpty then none else some key
      hasOtherLines := state.hasOtherLines || key.isEmpty }

/-- The state after one more line. -/
def step (state : IniState) (line : List Char) : Except IniFault IniState :=
  let text := trim line
  let indentation := (line.takeWhile isSpace).length
  match text with
  | [] => .ok (state.addLine [])
  | '#' :: _ | ';' :: _ => .ok state
  | _ =>
    -- Only the value of an entry goes on; after a header every line starts something new.
    if state.key.isSome ∧ indentation > state.indentation then .ok (state.addLine text)
    else
      let state := { state with indentation := indentation }
      match iniLine text, state.current with
      | .header name, _ => state.openSection name
      | _, none => .error .noHeader
      | .entry key value, some s => state.addEntry s key value
      | .other, some _ => .ok { state with hasOtherLines := true }

end IniState

/-- The sections of a text. -/
def Ini.ofText (s : List Char) : Except IniFault Ini := do
  let state ← (splitAt '\n' s).foldlM IniState.step {}
  if state.hasOtherLines then throw .notAnEntry
  return state.sections.map fun s =>
    (s.name, s.entries.map fun (key, lines) => (key, trimEnd (joinWith '\n' lines)))

/-! ## References -/

/-- The key in a reference and the text after it, given the text after the percent sign. -/
def reference? (s : List Char) : Option (String × List Char) :=
  match s with
  | '(' :: rest =>
    match rest.takeWhile (· != ')'), rest.dropWhile (· != ')') with
    | c :: name, ')' :: 's' :: rest => some (String.ofList (c :: name), rest)
    | _, _ => none
  | _ => none

theorem length_of_reference? {s rest : List Char} {key : String}
    (h : reference? s = some (key, rest)) : rest.length < s.length := by
  unfold reference? at h
  split at h
  · rename_i tail
    split at h
    · rename_i hdrop
      simp only [Option.some.injEq, Prod.mk.injEq] at h
      have := (List.dropWhile_suffix (l := tail) (· != ')')).length_le
      rw [hdrop] at this
      simp only [List.length_cons] at this ⊢
      rw [← h.2]
      omega
    · simp at h
  · simp at h

/-- What a value consists of. -/
inductive ValuePart where
  | char (c : Char)
  | reference (key : String)
  /-- A percent sign that starts no reference; nothing after it is looked at. -/
  | stray

/-- The first part of a value and the text after it. -/
def valuePart? (s : List Char) : Option (ValuePart × List Char) :=
  match s with
  | [] => none
  | '%' :: '%' :: rest => some (.char '%', rest)
  | '%' :: rest =>
    match reference? rest with
    | some (key, rest) => some (.reference key, rest)
    | none => some (.stray, [])
  | c :: rest => some (.char c, rest)

theorem length_of_valuePart? {s rest : List Char} {part : ValuePart}
    (h : valuePart? s = some (part, rest)) : rest.length < s.length := by
  unfold valuePart? at h
  split at h
  · simp at h
  · simp only [Option.some.injEq, Prod.mk.injEq] at h
    rw [← h.2]
    simp only [List.length_cons]
    omega
  · split at h
    · rename_i hr
      simp only [Option.some.injEq, Prod.mk.injEq] at h
      have := length_of_reference? hr
      rw [← h.2]
      simp only [List.length_cons]
      omega
    · simp only [Option.some.injEq, Prod.mk.injEq] at h
      rw [← h.2]
      simp only [List.length_nil, List.length_cons]
      omega
  · simp only [Option.some.injEq, Prod.mk.injEq] at h
    rw [← h.2]
    simp only [List.length_cons]
    omega

/-- The parts of a value. -/
def valueParts (s : List Char) : List ValuePart :=
  match _h : valuePart? s with
  | none => []
  | some (part, rest) => part :: valueParts rest
termination_by s.length
decreasing_by exact length_of_valuePart? _h

/-- What a part stands for, where `writeOut` writes out the values that are referred to. -/
def ValuePart.writeOut (entries : Entries)
    (writeOut : List Char → Except IniFault (List Char)) :
    ValuePart → Except IniFault (List Char)
  | .char c => .ok [c]
  | .reference key =>
    match entries.lookup key with
    | none => .error .unknownReference
    | some target => if target.contains '%' then writeOut target else .ok target
  | .stray => .error .badReference

/-- The value written out; the values that it refers to may refer to others, in `depth` steps. -/
def expand (entries : Entries) (depth : Nat) (value : List Char) : Except IniFault (List Char) :=
  let writeOut :=
    match depth with
    | 0 => fun _ => .error .deepReference
    | depth + 1 => expand entries depth
  ((valueParts value).mapM (ValuePart.writeOut entries writeOut)).map List.flatten

/-- In how many steps a value may refer to others. -/
def referenceDepth : Nat := 9

/-- The entries of a section, its own and then those of the default section, with their values
written out; nothing if there is no such section. -/
def Ini.entries? (ini : Ini) (name : String) :
    Option (Except IniFault (List (String × String))) :=
  (ini.lookup name).map fun own =>
    let shared := (ini.lookup defaultSection).getD []
    let entries := own ++ shared.filter fun (key, _) => (own.lookup key).isNone
    entries.mapM fun (key, value) => do
      let value ← expand entries referenceDepth value
      return (key, String.ofList value)

end Litmus.Settings
