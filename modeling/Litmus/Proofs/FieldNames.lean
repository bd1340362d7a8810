import Litmus.Proofs.Sequence
import Litmus.Settings.Standard

/-!
# Names of fields

The key of an option is the name of a field of the settled values. Keys are checked for that in any
script; this module is about the plain ones, which hold small letters of ASCII and underscores only.

* **`normalForm_of_ascii`**: a text of ASCII is its own normal form, since the tables of the normal
  form are about other characters.
* **`checkNames_of_plain`**: plain keys can name fields. **`checkNames_standard`**: those of the
  program do.
-/

namespace Litmus

namespace Text

/-! ## ASCII in the tables -/

theorem inRanges_of_ascii {ranges : List (Nat × Nat)} (h : ∀ range ∈ ranges, 128 ≤ range.1) {n : Nat}
    (hn : n < 128) : inRanges ranges n = false := by
  rw [inRanges, List.any_eq_false]
  intro range hrange
  have hfirst := h range hrange
  simp
  omega

theorem standInRanges_above : ∀ range ∈ standInRanges, 128 ≤ range.1 := by
  decide +kernel

theorem markClasses_above : ∀ entry ∈ markClasses, ∀ range ∈ entry.2, 128 ≤ range.1 := by
  decide +kernel

theorem asciiLigatures_above : ∀ entry ∈ asciiLigatures, 128 ≤ entry.1 := by
  decide +kernel

theorem asciiRuns_above : ∀ run ∈ asciiRuns, 128 ≤ run.1 := by
  decide +kernel

/-- What is composed is no character of ASCII, and neither is what comes second in it. -/
theorem compositions_above :
    ∀ entry ∈ compositions, 128 ≤ entry.1 ∧ ∀ pair ∈ entry.2, 128 ≤ pair.2 := by
  decide +kernel

theorem isStandIn_of_ascii {c : Char} (h : c.toNat < 128) : isStandIn c = false :=
  inRanges_of_ascii standInRanges_above h

theorem spelledOut_of_ascii {c : Char} (h : c.toNat < 128) : spelledOut c = [c] := by
  have hligature : asciiLigatures.lookup c.toNat = none := by
    rw [List.lookup_eq_none_iff]
    intro entry hentry
    have habove := asciiLigatures_above entry hentry
    simp
    omega
  rw [spelledOut, hligature]
  dsimp only
  split
  · rename_i first last letter hrun
    have habove := asciiRuns_above _ (List.mem_of_find?_eq_some hrun)
    have hfirst := List.find?_some hrun
    simp at hfirst
    omega
  · rfl

theorem markClass_of_ascii {c : Char} (h : c.toNat < 128) : markClass c = 0 := by
  rw [markClass, List.find?_eq_none.mpr]
  · rfl
  · intro entry hentry
    simp [inRanges_of_ascii (markClasses_above entry hentry) h]

theorem parts_of_ascii {c : Char} (h : c.toNat < 128) : parts c = [c] := by
  have hparts : parts? c = none := by
    rw [parts?, List.findSome?_eq_none_iff]
    rintro ⟨second, pairs⟩ hentry
    have hnone : pairs.find? (·.2 = c.toNat) = none := by
      rw [List.find?_eq_none]
      intro pair hpair
      have habove := (compositions_above _ hentry).2 pair hpair
      simp
      omega
    dsimp only
    rw [hnone, Option.map_none]
  rw [parts, partsWith, hparts]

theorem composed?_of_ascii (first : Char) {second : Char} (h : second.toNat < 128) :
    composed? first second = none := by
  have hsyllable : syllable? first.toNat second.toNat = none := by
    rw [syllable?, if_neg (by omega), if_neg (by omega)]
  have hlookup : compositions.lookup second.toNat = none := by
    rw [List.lookup_eq_none_iff]
    intro entry hentry
    have habove := (compositions_above entry hentry).1
    simp
    omega
  rw [composed?, hsyllable, hlookup]
  rfl

/-! ## ASCII in the normal form -/

theorem insertMark_of_ascii {c : Char} {s : List Char} (h : ∀ d ∈ s, d.toNat < 128) :
    insertMark c s = c :: s := by
  cases s with
  | nil => rfl
  | cons next rest =>
    have hnext := markClass_of_ascii (h next List.mem_cons_self)
    rw [insertMark, hnext, if_neg (by omega)]

theorem compose_of_ascii {s : List Char} (h : ∀ c ∈ s, c.toNat < 128) (start : Char) :
    compose start [] s = start :: s := by
  induction s generalizing start with
  | nil => rfl
  | cons c s ih =>
    have hc := h c List.mem_cons_self
    have hrest := ih (fun d hd => h d (List.mem_cons_of_mem c hd)) c
    rw [compose, composed?_of_ascii start hc, markClass_of_ascii hc, hrest]
    simp

/-- **A text of ASCII is its own normal form.** -/
theorem normalForm_of_ascii {s : List Char} (h : ∀ c ∈ s, c.toNat < 128) : normalForm s = s := by
  have hspelled : s.flatMap spelledOut = s := by
    rw [List.flatMap_congr fun c hc => spelledOut_of_ascii (h c hc), List.flatMap_singleton']
  have hparts : s.flatMap parts = s := by
    rw [List.flatMap_congr fun c hc => parts_of_ascii (h c hc), List.flatMap_singleton']
  have hmarks : s.foldr insertMark [] = s := by
    clear hspelled hparts
    induction s with
    | nil => rfl
    | cons c s ih =>
      have hrest : ∀ d ∈ s, d.toNat < 128 := fun d hd => h d (List.mem_cons_of_mem c hd)
      rw [List.foldr_cons, ih hrest, insertMark_of_ascii hrest]
  rw [normalForm, hspelled, hparts, hmarks]
  cases s with
  | nil => rfl
  | cons start rest => exact compose_of_ascii (fun c hc => h c (List.mem_cons_of_mem start hc)) start

theorem isNormal_of_ascii {s : List Char} (h : ∀ c ∈ s, c.toNat < 128) : isNormal s = true := by
  have hstandIn : s.any isStandIn = false := by
    rw [List.any_eq_false]
    intro c hc
    simp [isStandIn_of_ascii (h c hc)]
  rw [isNormal, hstandIn, normalForm_of_ascii h]
  simp

end Text

namespace Settings

/-! ## Plain keys -/

/-- The characters of a plain key. -/
def plainChars : List Char :=
  ['a', 'b', 'c', 'd', 'e', 'f', 'g', 'h', 'i', 'j', 'k', 'l', 'm', 'n', 'o', 'p', 'q', 'r', 's',
   't', 'u', 'v', 'w', 'x', 'y', 'z', '_']

theorem plainChars_ascii : ∀ c ∈ plainChars, c.toNat < 128 := by
  simp [plainChars]

-- Read as a quantifier over all characters this would be decided for each of them.
theorem plainChars_start : ∀ c ∈ plainChars, Text.startsIdentifier c = true :=
  List.all_eq_true.mp (by decide +kernel)

/-- A key of small letters and underscores that starts with a letter and is no reserved word. -/
structure PlainKey (key : String) : Prop where
  chars : ∀ c ∈ key.toList, c ∈ plainChars
  nonempty : key.toList ≠ []
  start : key.toList.head? ≠ some '_'
  free : key ∉ reservedWords

theorem PlainKey.isIdentifier {key : String} (h : PlainKey key) :
    Text.isIdentifier key.toList = true := by
  have hstarts : ∀ c ∈ key.toList, Text.startsIdentifier c = true := fun c hc =>
    plainChars_start c (h.chars c hc)
  have hnonempty := h.nonempty
  revert hstarts hnonempty
  cases key.toList with
  | nil => simp
  | cons c rest =>
    intro hstarts _
    rw [Text.isIdentifier, hstarts c List.mem_cons_self, Bool.true_and, List.all_eq_true]
    intro d hd
    rw [Text.continuesIdentifier, hstarts d (List.mem_cons_of_mem c hd)]
    rfl

theorem PlainKey.ascii {key : String} (h : PlainKey key) : ∀ c ∈ key.toList, c.toNat < 128 :=
  fun c hc => plainChars_ascii c (h.chars c hc)

theorem firstRepeated?_of_nodup {seen keys : List String} (hnodup : keys.Nodup)
    (hseen : ∀ key ∈ keys, key ∉ seen) : firstRepeated? seen keys = none := by
  induction keys generalizing seen with
  | nil => rfl
  | cons key keys ih =>
    obtain ⟨hkey, hnodup⟩ := List.nodup_cons.mp hnodup
    rw [firstRepeated?, if_neg (hseen key List.mem_cons_self)]
    refine ih hnodup fun other hother => ?_
    rw [List.mem_cons, not_or]
    exact ⟨fun heq => hkey (heq ▸ hother), hseen other (List.mem_cons_of_mem key hother)⟩

/-- **Plain keys can name fields.** -/
theorem checkNames_of_plain {keys : List String} (h : ∀ key ∈ keys, PlainKey key) :
    checkNames keys = .ok () := by
  have hsorted : ∀ key ∈ namesOf keys, PlainKey key := fun key hkey => h key (mem_namesOf.mp hkey)
  have hnames : (namesOf keys).forM (fun key =>
      if !Text.isIdentifier key.toList then throw (.badName .notIdentifier key)
      else if key ∈ reservedWords then throw (.badName .reserved key)
      else pure ()) = (.ok () : Except Fault Unit) := by
    refine forM_eq_ok fun key hkey => ?_
    rw [(hsorted key hkey).isIdentifier, if_neg (by simp), if_neg (hsorted key hkey).free]
    rfl
  have hunderscore : (namesOf keys).find? (·.toList.head? = some '_') = none := by
    rw [List.find?_eq_none]
    intro key hkey
    simpa using (hsorted key hkey).start
  have hfields : (namesOf keys).map (fun key => String.ofList (Text.normalForm key.toList)) =
      namesOf keys := by
    refine (List.map_congr_left fun key hkey => ?_).trans (List.map_id _)
    rw [Text.normalForm_of_ascii (hsorted key hkey).ascii, String.ofList_toList]
    rfl
  have hrepeated : firstRepeated? [] (namesOf keys) = none := by
    refine firstRepeated?_of_nodup ?_ fun _ _ => List.not_mem_nil
    exact (pairwise_namesOf keys).imp fun hlt heq => absurd (heq ▸ hlt) (String.lt_irrefl _)
  have hnormal : keys.find? (!Text.isNormal ·.toList) = none := by
    rw [List.find?_eq_none]
    intro key hkey
    simp [Text.isNormal_of_ascii (h key hkey).ascii]
  rw [checkNames, hnames]
  simp only [hunderscore, hfields, hrepeated, hnormal]
  rfl

theorem checkNames_standard : checkNames standard.keys = .ok () := by
  refine checkNames_of_plain fun key hkey => ?_
  have hchars : standard.keys.all (fun key => key.toList.all plainChars.contains) = true := by
    decide +kernel
  have hstart : ∀ key ∈ standard.keys, key.toList ≠ [] ∧ key.toList.head? ≠ some '_' := by decide
  have hfree : ∀ key ∈ standard.keys, key ∉ reservedWords := by decide
  have hkeyChars := List.all_eq_true.mp (List.all_eq_true.mp hchars key hkey)
  exact ⟨fun c hc => by simpa using hkeyChars c hc, (hstart key hkey).1, (hstart key hkey).2,
    hfree key hkey⟩

end Settings

end Litmus
