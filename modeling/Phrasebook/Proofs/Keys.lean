import Mathlib
import Phrasebook.Function
import Phrasebook.Proofs.Environments

/-!
# Keys that can be taken apart

A key is put together from a name and a language in upper case, with two hyphens between them.
Both can hold hyphens themselves, so what a key was made of can only be told if the first two
hyphens in a row are those in the middle: the name has no two in a row and does not end with one.
The language may hold any number of them, at its start, too.

For such names and languages, all in ASCII, a key tells its name and its language up to the case of
the letters. So variables for different templates never share a key; the catalog that is gathered
from them lists every template once, and a look-up finds it under its name and language in any
case.
-/

namespace Phrasebook

namespace Text

/-- A text of ASCII characters. -/
def IsAscii (text : Text) : Prop :=
  ∀ character ∈ text, character.toNat < 0x80

instance (text : Text) : Decidable (IsAscii text) :=
  List.decidableBAll _ text

/-- Two texts with the same characters, except that an ASCII letter may be a capital letter in one
and a small letter in the other. -/
def SameLetters (first second : Text) : Prop :=
  asciiLower first = asciiLower second

instance (first second : Text) : Decidable (SameLetters first second) :=
  inferInstanceAs (Decidable (asciiLower first = asciiLower second))

/-- An ASCII character is ASCII in lower case, and it is ASCII and no small letter in upper case. -/
theorem cases_of_ascii {character : Char} (ascii : character.toNat < 0x80) :
    character.toLower.toNat < 0x80 ∧ isUnlowered character.toUpper = true :=
  of_asciiCodes ascii (by decide)

/-- A character that is ASCII in lower case is ASCII. -/
theorem ascii_of_toLower {character : Char} (lowered : character.toLower.toNat < 0x80) :
    character.toNat < 0x80 := by
  by_cases capital : character.isUpper = true
  · have code : character.toNat ≤ 90 := by
      simp only [Char.isUpper, decide_eq_true_eq] at capital
      exact capital.2
    omega
  · rwa [Char.toLower_eq_of_not_isUpper capital] at lowered

/-- Only a hyphen is a hyphen in upper case. -/
theorem eq_hyphen_of_toUpper {character : Char} (ascii : character.toNat < 0x80)
    (raised : character.toUpper = '-') : character = '-' := by
  revert raised
  exact of_asciiCodes ascii (by decide)

/-- The upper case of an ASCII text, letter by letter. -/
theorem upper_eq_map {text : Text} (ascii : IsAscii text) : upper text = text.map Char.toUpper := by
  induction text with
  | nil => rfl
  | cons first rest inductionHypothesis =>
    obtain ⟨here, others⟩ := List.forall_mem_cons.mp ascii
    have later : List.flatMap upperChar rest = rest.map Char.toUpper := inductionHypothesis others
    rw [upper, List.flatMap_cons, later, upperChar, if_pos here]
    rfl

/-- The lower case of an ASCII text, letter by letter. -/
theorem lowerAfter_eq_asciiLower {text : Text} (ascii : IsAscii text) (seen : Text) :
    lowerAfter seen text = asciiLower text := by
  induction text generalizing seen with
  | nil => rfl
  | cons first rest inductionHypothesis =>
    obtain ⟨here, others⟩ := List.forall_mem_cons.mp ascii
    have notSigma : first ≠ 'Σ' := by
      rintro rfl
      exact absurd here (by decide)
    rw [lowerAfter, if_neg notSigma, lowerChar, if_pos here, inductionHypothesis others]
    rfl

/-- The lower case of an ASCII text changes the letters that are ASCII, which are all of them. -/
theorem lower_eq_asciiLower {text : Text} (ascii : IsAscii text) : lower text = asciiLower text :=
  lowerAfter_eq_asciiLower ascii []

/-- An ASCII text has no small letters in upper case. -/
theorem isUpperAscii_upper {text : Text} (ascii : IsAscii text) : IsUpperAscii (upper text) := by
  rw [upper_eq_map ascii]
  intro raised member
  obtain ⟨character, inside, rfl⟩ := List.mem_map.mp member
  exact (cases_of_ascii (ascii character inside)).2

/-- The lower case of an ASCII text is the same when taken from its upper case. -/
theorem lower_upper {text : Text} (ascii : IsAscii text) : lower (upper text) = lower text := by
  have capital := isUpperAscii_upper ascii
  have raised : IsAscii (upper text) := fun character member => (toUpper_eq (capital _ member)).1
  rw [lower_eq_asciiLower raised, lower_eq_asciiLower ascii, upper_eq_map ascii, asciiLower,
    asciiLower, List.map_map]
  exact List.map_congr_left fun character _ => Char.toLower_toUpper_eq_toLower character

/-- A text with the same letters as an ASCII text is ASCII. -/
theorem SameLetters.isAscii {first second : Text} (same : SameLetters first second)
    (ascii : IsAscii second) : IsAscii first := by
  intro character member
  have lowered : character.toLower ∈ asciiLower second :=
    same ▸ List.mem_map.mpr ⟨character, member, rfl⟩
  obtain ⟨other, inside, equal⟩ := List.mem_map.mp lowered
  exact ascii_of_toLower (equal ▸ (cases_of_ascii (ascii other inside)).1)

/-- Two ASCII texts have the same letters exactly if they are the same in upper case. -/
theorem upper_eq_upper_iff {first second : Text} (ascii : IsAscii first) (ascii' : IsAscii second) :
    upper first = upper second ↔ SameLetters first second := by
  have raise {text : Text} (within : IsAscii text) :
      (asciiLower text).map Char.toUpper = upper text := by
    rw [upper_eq_map within, asciiLower, List.map_map]
    exact List.map_congr_left fun character _ => Char.toUpper_toLower_eq_toUpper character
  constructor
  · intro same
    have lowered := congrArg lower same
    rwa [lower_upper ascii, lower_upper ascii', lower_eq_asciiLower ascii,
      lower_eq_asciiLower ascii'] at lowered
  · intro same
    rw [← raise ascii, ← raise ascii', show asciiLower first = asciiLower second from same]

/-- A text without a word is not broken at it. -/
theorem breakAtWord?_eq_none {word text : Text} (absent : ¬word <:+: text) :
    breakAtWord? word text = none := by
  cases broken : breakAtWord? word text with
  | none => rfl
  | some parts =>
    obtain ⟨before, after⟩ := parts
    exact absurd ⟨before, after, (eq_append_of_breakAtWord? broken).symm⟩ absent

/-- A text is broken at a word that does not occur before its place, nor partly there.

Proof: by induction over the part in front of the word. Had the word been found earlier, it would
be over before its last character here. -/
theorem breakAtWord?_append {word before : Text} (absent : ¬word <:+: before ++ word.dropLast)
    (after : Text) : breakAtWord? word (before ++ word ++ after) = some (before, after) := by
  induction before with
  | nil =>
    have stripped : word.isPrefixOf? (word ++ after) = some after :=
      List.isPrefixOf?_eq_some_iff_append_eq.mpr rfl
    cases word with
    | nil => simp at absent
    | cons first rest =>
      rw [List.cons_append] at stripped
      rw [List.nil_append, List.cons_append, breakAtWord?, stripped]
  | cons first rest inductionHypothesis =>
    have later : ¬word <:+: rest ++ word.dropLast := fun inside =>
      absent (inside.trans (List.suffix_cons first _).isInfix)
    -- found here, the word would lie within the part that is known to lack it
    have early : word.isPrefixOf? (first :: rest ++ word ++ after) = none := by
      refine Option.eq_none_iff_forall_ne_some.mpr fun remaining stripped => absent ?_
      have whole : word <+: first :: rest ++ word ++ after :=
        ⟨remaining, List.isPrefixOf?_eq_some_iff_append_eq.mp stripped⟩
      have front : first :: rest ++ word.dropLast <+: first :: rest ++ word ++ after := by
        rw [List.append_assoc, List.prefix_append_right_inj]
        exact (List.dropLast_prefix word).trans (List.prefix_append word after)
      exact (List.prefix_of_prefix_length_le whole front (by simp; omega)).isInfix
    simp only [List.cons_append] at early ⊢
    rw [breakAtWord?, early, inductionHypothesis later]
    rfl

end Text

namespace KeyScheme

variable {scheme : KeyScheme} {name language : Text}

/-- A name and a language that can be told from their key. -/
@[mk_iff]
structure Separable (name language : Text) : Prop where
  named : name ≠ []
  unmarked : ¬languageMark <:+: name
  closed : name.getLast? ≠ some '-'
  asciiName : Text.IsAscii name
  asciiLanguage : Text.IsAscii language

instance (name language : Text) : Decidable (Separable name language) :=
  decidable_of_iff _ (separable_iff name language).symm

/-- Two hyphens in a row stand in upper case only where two hyphens stood. -/
theorem mark_infix_of_upper {text : Text} (ascii : Text.IsAscii text)
    (inside : languageMark <:+: Text.upper text) : languageMark <:+: text := by
  rw [Text.upper_eq_map ascii, List.infix_map_iff] at inside
  obtain ⟨found, within, same⟩ := inside
  have hyphens : found = List.replicate 2 '-' := by
    refine List.eq_replicate_iff.mpr ⟨?_, fun character member => ?_⟩
    · simpa [languageMark] using (congrArg List.length same).symm
    · have here : character.toUpper ∈ languageMark := same ▸ List.mem_map.mpr ⟨_, member, rfl⟩
      have raised : character.toUpper = '-' := by simpa [languageMark] using here
      exact Text.eq_hyphen_of_toUpper (ascii character (within.mem member)) raised
  rw [hyphens] at within
  exact within

/-- A separable name in upper case has no two hyphens in a row, even if a hyphen follows. -/
theorem mark_absent (separable : Separable name language) :
    ¬languageMark <:+: storedName name ++ ['-'] := by
  have ascii : Text.IsAscii (name ++ ['-']) :=
    List.forall_mem_append.mpr ⟨separable.asciiName, List.forall_mem_singleton.mpr (by decide)⟩
  have raised : storedName name ++ ['-'] = Text.upper (name ++ ['-']) := by
    rw [Text.upper_eq_map ascii, List.map_append, ← Text.upper_eq_map separable.asciiName]
    rfl
  rw [raised]
  intro inside
  rcases List.infix_concat_iff.mp (mark_infix_of_upper ascii inside) with ended | within
  · obtain impossible | ⟨before, hyphen, front, rfl⟩ := List.suffix_concat_iff.mp ended
    · exact absurd impossible (by decide)
    · obtain rfl : ['-'] = before := List.append_cancel_right hyphen
      exact separable.closed (by simp)
  · exact separable.unmarked within

/-- The stem of a key for a separable name. -/
theorem stem?_key (separable : Separable name language) :
    scheme.stem? (scheme.key name language) = some (storedName name ++
      if language.isEmpty then [] else languageMark ++ Text.upper language) := by
  have present : storedName name ≠ [] := by
    simpa [storedName, Text.upper_eq_map separable.asciiName] using separable.named
  refine stem?_eq_some_iff.mpr ⟨by simp [present], ?_⟩
  rw [key, ← List.append_assoc]

/-- A variable with the key of a separable name and language is taken apart into both, the name in
upper case and the language in lower case. -/
theorem parts_of_key {binding : EnvironmentVariable} {template : Text}
    (separable : Separable name language)
    (named : binding.key = some (scheme.key name language))
    (held : binding.content = some template) (present : template ≠ []) :
    scheme.entry? binding = some (storedName name, Text.lower language, template) := by
  have solid : template.isEmpty = false := by simpa using present
  have absent := mark_absent separable
  unfold entry?
  simp only [named, held, solid, stem?_key separable, Option.map_some]
  by_cases unset : language = []
  · have unmarked : Text.breakAtWord? languageMark (storedName name) = none :=
      Text.breakAtWord?_eq_none fun inside =>
        absent (inside.trans (List.prefix_append _ _).isInfix)
    simp [unset, unmarked, Text.lower, Text.lowerAfter]
  · have spoken : language.isEmpty = false := by simpa using unset
    have broken : Text.breakAtWord? languageMark
        (storedName name ++ languageMark ++ Text.upper language) =
          some (storedName name, Text.upper language) :=
      Text.breakAtWord?_append absent _
    simp [spoken, ← List.append_assoc, broken, Text.lower_upper separable.asciiLanguage]

/-- A key does not depend on the case of the letters in name and language. -/
theorem key_congr {name' language' : Text} (ascii : Text.IsAscii name')
    (ascii' : Text.IsAscii language') (sameName : Text.SameLetters name name')
    (sameLanguage : Text.SameLetters language language') :
    scheme.key name language = scheme.key name' language' := by
  have both : language.isEmpty = language'.isEmpty := by
    have lengths := congrArg List.isEmpty sameLanguage
    simpa [asciiLower] using lengths
  rw [key, key, both, storedName, storedName,
    (Text.upper_eq_upper_iff (sameName.isAscii ascii) ascii).mpr sameName,
    (Text.upper_eq_upper_iff (sameLanguage.isAscii ascii') ascii').mpr sameLanguage]

/-- What a key is taken apart into tells the letters of the name and the language. -/
theorem sameLetters_of_parts {name' language' : Text} (separable : Separable name language)
    (separable' : Separable name' language') (sameName : storedName name = storedName name')
    (sameLanguage : Text.lower language = Text.lower language') :
    Text.SameLetters name name' ∧ Text.SameLetters language language' := by
  rw [Text.lower_eq_asciiLower separable.asciiLanguage,
    Text.lower_eq_asciiLower separable'.asciiLanguage] at sameLanguage
  exact ⟨(Text.upper_eq_upper_iff separable.asciiName separable'.asciiName).mp sameName,
    sameLanguage⟩

/-- Separable names and languages have one key exactly if they have the same letters. -/
theorem key_eq_key_iff {name' language' : Text} (separable : Separable name language)
    (separable' : Separable name' language') :
    scheme.key name language = scheme.key name' language' ↔
      Text.SameLetters name name' ∧ Text.SameLetters language language' := by
  constructor
  · intro same
    let binding : EnvironmentVariable := ⟨some (scheme.key name language), some name⟩
    have told : scheme.entry? binding = some (storedName name, Text.lower language, name) :=
      parts_of_key separable rfl rfl separable.named
    have told' : scheme.entry? binding = some (storedName name', Text.lower language', name) :=
      parts_of_key separable' (congrArg some same) rfl separable.named
    rw [told, Option.some_inj, Prod.mk.injEq, Prod.mk.injEq] at told'
    obtain ⟨sameName, sameLanguage, _⟩ := told'
    exact sameLetters_of_parts separable separable' sameName sameLanguage
  · rintro ⟨sameName, sameLanguage⟩
    exact key_congr separable'.asciiName separable'.asciiLanguage sameName sameLanguage

/-- Templates with their names and languages that an environment can hold: none is empty, each name
and language can be told from their key, and no two of them have the same letters. -/
@[mk_iff]
structure Storable (written : List (Text × Text × Text)) : Prop where
  separable : ∀ entry ∈ written, Separable entry.1 entry.2.1
  present : ∀ entry ∈ written, entry.2.2 ≠ []
  apart : written.Pairwise fun first second =>
    ¬(Text.SameLetters first.1 second.1 ∧ Text.SameLetters first.2.1 second.2.1)

instance (written : List (Text × Text × Text)) : Decidable (Storable written) :=
  decidable_of_iff _ (storable_iff written).symm

/-- The variable for a name, a language and a template. -/
def holding (scheme : KeyScheme) (entry : Text × Text × Text) : EnvironmentVariable :=
  ⟨some (scheme.key entry.1 entry.2.1), some entry.2.2⟩

/-- A name, a language and a template as a catalog of the environment lists them. -/
def gathered (entry : Text × Text × Text) : Text × Text × Text :=
  (storedName entry.1, Text.lower entry.2.1, entry.2.2)

variable {written : List (Text × Text × Text)}

/-- The variable for a template is taken apart into what a catalog lists. -/
theorem gathered_of_holding (storable : Storable written) {entry : Text × Text × Text}
    (member : entry ∈ written) : scheme.entry? (scheme.holding entry) = some (gathered entry) :=
  parts_of_key (storable.separable entry member) rfl rfl (storable.present entry member)

/-- What a catalog lists of different templates differs in name or language. -/
theorem gathered_apart (storable : Storable written) :
    written.Pairwise fun first second =>
      ¬((gathered first).1 = (gathered second).1 ∧ (gathered first).2.1 = (gathered second).2.1) := by
  refine storable.apart.imp_of_mem fun {first second} member member' apart same => apart ?_
  exact sameLetters_of_parts (storable.separable first member)
    (storable.separable second member') same.1 same.2

/-- The keys of different templates differ. -/
theorem keys_nodup (scheme : KeyScheme) (storable : Storable written) :
    (written.map fun entry => scheme.key entry.1 entry.2.1).Nodup := by
  rw [List.Nodup, List.pairwise_map]
  refine storable.apart.imp_of_mem fun {first second} member member' apart same => apart ?_
  exact (key_eq_key_iff (storable.separable first member)
    (storable.separable second member')).mp same

/-- The catalog of variables for different templates has each of them under its name and language.

Proof: the catalog has the last template of each name and language, and here this is the only one. -/
theorem lookup_catalog_holding (storable : Storable written) {template : Text} :
    (scheme.catalog (written.map scheme.holding)).lookup name language = some template ↔
      (name, language, template) ∈ written.map gathered := by
  rw [lookup_catalog_eq_some_iff]
  constructor
  · rintro ⟨front, binding, back, whole, entry, _⟩
    have listed : binding ∈ written.map scheme.holding := by simp [whole]
    obtain ⟨source, member, rfl⟩ := List.mem_map.mp listed
    rw [gathered_of_holding storable member, Option.some_inj] at entry
    exact entry ▸ List.mem_map.mpr ⟨source, member, rfl⟩
  · intro listed
    obtain ⟨entry, member, same⟩ := List.mem_map.mp listed
    obtain ⟨front, back, rfl⟩ := List.append_of_mem member
    refine ⟨front.map scheme.holding, scheme.holding entry, back.map scheme.holding, by simp,
      (gathered_of_holding storable member).trans (congrArg some same), ?_⟩
    rintro _ later other held
    obtain ⟨source, behind, rfl⟩ := List.mem_map.mp later
    -- a later variable for this name and language would have to be for the same template
    have after :=
      List.rel_of_pairwise_cons (List.pairwise_append.mp (gathered_apart storable)).2.1 behind
    rw [gathered_of_holding storable (by simp [behind]), Option.some_inj] at held
    exact after (by simp [same, held])

/-- The variables for templates that an environment can hold give back what was written. No two of
them have the same key, the catalog that is gathered from them lists exactly these templates, and
each template is looked up under its name and language in any case. -/
theorem keys_taken_apart (scheme : KeyScheme) (storable : Storable written) :
    (written.map fun entry => scheme.key entry.1 entry.2.1).Nodup ∧
      (scheme.catalog (written.map scheme.holding)).entries.Perm (written.map gathered) ∧
      ∀ entry ∈ written, ∀ name language, Text.SameLetters name entry.1 →
        Text.SameLetters language entry.2.1 →
        scheme.lookup (written.map scheme.holding) name language = some entry.2.2 := by
  have distinct := keys_nodup scheme storable
  refine ⟨distinct, ?_, ?_⟩
  · have once : (written.map gathered).Nodup := by
      rw [List.Nodup, List.pairwise_map]
      exact (gathered_apart storable).imp fun apart same => apart (by simp [same])
    refine (List.perm_ext_iff_of_nodup (Catalog.entries_nodup _) once).mpr ?_
    rintro ⟨name, language, template⟩
    rw [Catalog.mem_entries_iff, lookup_catalog_holding storable]
  · intro entry member name language sameName sameLanguage
    have separable := storable.separable entry member
    have named : (scheme.holding entry).key = some (scheme.key name language) :=
      congrArg some (key_congr separable.asciiName separable.asciiLanguage sameName
        sameLanguage).symm
    have keys : (written.map scheme.holding).filterMap EnvironmentVariable.key =
        written.map fun entry => scheme.key entry.1 entry.2.1 := by
      simp [List.filterMap_map, Function.comp_def, holding]
    exact lookup_of_mem (keys ▸ distinct) (List.mem_map.mpr ⟨entry, member, rfl⟩) named
      (gathered_of_holding storable member)

/-- Hyphens all over, in the parts of the keys as well: a name for the default language and for one
that begins with two hyphens, and a language with two hyphens inside. -/
theorem keys_taken_apart_hyphens :
    let scheme : KeyScheme := ⟨"--".toList, "-".toList⟩
    let written : List (Text × Text × Text) :=
      [("a-b".toList, "--de-".toList, ['x']), ("A-b".toList, [], ['y']),
        ("-a".toList, "B--C".toList, ['z']), ("-A-b".toList, "c".toList, ['w'])]
    Storable written ∧
      (scheme.catalog (written.map scheme.holding)).entries.Perm
        [("-A".toList, "b--c".toList, ['z']), ("-A-B".toList, "c".toList, ['w']),
          ("A-B".toList, [], ['y']), ("A-B".toList, "--de-".toList, ['x'])] ∧
      scheme.lookup (written.map scheme.holding) "A-B".toList "--De-".toList = some ['x'] := by
  intro scheme written
  have storable : Storable written := by decide
  obtain ⟨_, listed, looked⟩ := keys_taken_apart scheme storable
  have sorted : written.map gathered =
      [("A-B".toList, "--de-".toList, ['x']), ("A-B".toList, [], ['y']),
        ("-A".toList, "b--c".toList, ['z']), ("-A-B".toList, "c".toList, ['w'])] := by decide
  refine ⟨storable, listed.trans (sorted ▸ by decide), ?_⟩
  exact looked ("a-b".toList, "--de-".toList, ['x']) (by simp [written]) _ _ (by decide) (by decide)

end KeyScheme

end Phrasebook
