import Mathlib.Data.List.Induction
import Phrasebook.Environment
import Phrasebook.Proofs.Catalogs

/-!
# The environment as a catalog

Templates in the environment can be looked up one by one, under a key that is made up from name
and language, or gathered into a catalog, for which every key is taken apart. If all stems are in
upper case, making up and taking apart undo each other, with one exception: a stem that ends with
its first two hyphens is gathered for the default language, where a look-up does not expect any
hyphens. Such a dangling stem puts a template into the catalog that no look-up reads.

The catalog keeps the last variable of each name and language. So it agrees with the look-ups
exactly if each template under a dangling stem is replaced later, or stands in the variable that
is looked up, too.
-/

namespace Phrasebook

namespace Text

/-- The ASCII characters that are not small letters. -/
def isUnlowered (character : Char) : Bool :=
  decide (character.toNat < 0x80) && !character.isLower

/-- A text of ASCII characters, none of which is a small letter. -/
def IsUpperAscii (text : Text) : Prop :=
  ∀ character ∈ text, isUnlowered character = true

instance (text : Text) : Decidable (IsUpperAscii text) :=
  decidable_of_iff (text.all isUnlowered = true) List.all_eq_true

/-- Such a text takes its characters from one kind, first and others alike. -/
theorem isUpperAscii_cons {first : Char} {rest : Text} :
    IsUpperAscii (first :: rest) ↔ isUnlowered first = true ∧ IsUpperAscii rest :=
  List.forall_mem_cons

/-- Two texts in a row are of this kind if both are. -/
theorem isUpperAscii_append {before after : Text} :
    IsUpperAscii (before ++ after) ↔ IsUpperAscii before ∧ IsUpperAscii after :=
  List.forall_mem_append

/-- What holds for every code of ASCII holds for every ASCII character. -/
@[elab_as_elim]
theorem of_asciiCodes {motive : Char → Prop} {character : Char}
    (ascii : character.toNat < 0x80) (every : ∀ code < 0x80, motive (Char.ofNat code)) :
    motive character := by
  have here := every character.toNat ascii
  rwa [Char.ofNat_toNat] at here

/-- Such a character is ASCII, and so is its lower case; it is the upper case of both. -/
theorem toUpper_eq {character : Char} (unlowered : isUnlowered character = true) :
    character.toNat < 0x80 ∧ character.toUpper = character ∧
      character.toLower.toNat < 0x80 ∧ character.toLower.toUpper = character := by
  have ascii : character.toNat < 0x80 := by
    simp only [isUnlowered, Bool.and_eq_true, decide_eq_true_eq] at unlowered
    exact unlowered.1
  refine ⟨ascii, ?_⟩
  revert unlowered
  exact of_asciiCodes ascii (by decide)

/-- Upper case changes nothing in a text that has no small letters. -/
theorem upper_eq_self {text : Text} (capital : IsUpperAscii text) : upper text = text := by
  induction text with
  | nil => rfl
  | cons first rest inductionHypothesis =>
    obtain ⟨here, others⟩ := isUpperAscii_cons.mp capital
    obtain ⟨ascii, raised, _, _⟩ := toUpper_eq here
    have later : List.flatMap upperChar rest = rest := inductionHypothesis others
    rw [upper, List.flatMap_cons, later, upperChar, if_pos ascii, raised]
    rfl

/-- Upper case takes back the lower case of such a text. -/
theorem upper_lowerAfter {text : Text} (capital : IsUpperAscii text) (seen : Text) :
    upper (lowerAfter seen text) = text := by
  induction text generalizing seen with
  | nil => rfl
  | cons first rest inductionHypothesis =>
    obtain ⟨here, others⟩ := isUpperAscii_cons.mp capital
    obtain ⟨ascii, _, asciiLower, back⟩ := toUpper_eq here
    have notSigma : first ≠ 'Σ' := by
      rintro rfl
      exact absurd ascii (by decide)
    have later : List.flatMap upperChar (lowerAfter (first :: seen) rest) = rest :=
      inductionHypothesis others (first :: seen)
    rw [lowerAfter, if_neg notSigma, lowerChar, if_pos ascii, upper, List.flatMap_append, later,
      List.flatMap_singleton, upperChar, if_pos asciiLower, back]
    rfl

/-- A lower-case text is empty only if the text is. -/
theorem lower_eq_nil_iff {text : Text} (capital : IsUpperAscii text) :
    lower text = [] ↔ text = [] := by
  constructor
  · intro nothing
    have back := upper_lowerAfter capital []
    rw [← back]
    exact congrArg upper nothing
  · rintro rfl
    rfl

/-- The parts around a word and the word make up the text. -/
theorem eq_append_of_breakAtWord? {word text before after : Text}
    (broken : breakAtWord? word text = some (before, after)) : text = before ++ word ++ after := by
  induction text generalizing before with
  | nil =>
    obtain ⟨rest, stripped, same⟩ := Option.map_eq_some_iff.mp broken
    obtain ⟨rfl, rfl⟩ := Prod.mk.inj same
    exact (List.isPrefixOf?_eq_some_iff_append_eq.mp stripped).symm
  | cons first rest inductionHypothesis =>
    rw [breakAtWord?] at broken
    split at broken
    · rename_i remaining stripped
      obtain ⟨rfl, rfl⟩ := Prod.mk.inj (Option.some.inj broken)
      exact (List.isPrefixOf?_eq_some_iff_append_eq.mp stripped).symm
    · obtain ⟨⟨start, stop⟩, inner, same⟩ := Option.map_eq_some_iff.mp broken
      obtain ⟨rfl, rfl⟩ := Prod.mk.inj same
      rw [inductionHypothesis inner]
      rfl

end Text

namespace Environment

/-- The content of the first variable with a key is found under this key, unless it is empty. -/
theorem find?_of_first {front back : Environment} {binding : EnvironmentVariable} {key : Text}
    (present : key ≠ []) (named : binding.key = some key)
    (first : ∀ earlier ∈ front, earlier.key ≠ some key) :
    find? (front ++ binding :: back) key = binding.content := by
  have solid : key.isEmpty = false := by simpa using present
  have found : List.find? (fun other => other.key == some key) (front ++ binding :: back) =
      some binding := by
    refine List.find?_eq_some_iff_append.mpr ⟨by simp [named], front, back, rfl, ?_⟩
    intro earlier member
    simpa using first earlier member
  rw [find?, solid, if_neg (by decide), found]

/-- Where no key occurs twice, the content of a variable is found under its key. -/
theorem find?_of_mem {environment : Environment} {binding : EnvironmentVariable} {key : Text}
    (distinct : (environment.filterMap EnvironmentVariable.key).Nodup)
    (member : binding ∈ environment) (present : key ≠ []) (named : binding.key = some key) :
    environment.find? key = binding.content := by
  obtain ⟨front, back, rfl⟩ := List.append_of_mem member
  refine find?_of_first present named fun earlier inside same => ?_
  rw [List.filterMap_append, List.filterMap_cons_some named] at distinct
  have listed : key ∈ front.filterMap EnvironmentVariable.key :=
    List.mem_filterMap.mpr ⟨earlier, inside, same⟩
  obtain ⟨_, _, apart⟩ := List.nodup_append.mp distinct
  exact apart key listed key List.mem_cons_self rfl

end Environment

namespace KeyScheme

variable {scheme : KeyScheme} {environment : Environment}

/-- A stem stands between the leading and the trailing part of the key. -/
theorem eq_append_of_stem? {key stem : Text} (cut : scheme.stem? key = some stem) :
    key = scheme.lead ++ stem ++ scheme.trail := by
  obtain ⟨found, _⟩ := Option.filter_eq_some_iff.mp cut
  obtain ⟨rest, headed, ended⟩ := Option.bind_eq_some_iff.mp found
  rw [← List.isPrefixOf?_eq_some_iff_append_eq.mp headed,
    ← List.isSuffixOf?_eq_some_iff_append_eq.mp ended, List.append_assoc]

/-- A key has a stem exactly if it is put together from its leading part, the stem and its trailing
part, and the stem is not empty. -/
theorem stem?_eq_some_iff {key stem : Text} :
    scheme.stem? key = some stem ↔ stem ≠ [] ∧ key = scheme.lead ++ stem ++ scheme.trail := by
  constructor
  · intro cut
    obtain ⟨_, present⟩ := Option.filter_eq_some_iff.mp cut
    exact ⟨by simpa using present, eq_append_of_stem? cut⟩
  · rintro ⟨present, rfl⟩
    have headed : scheme.lead.isPrefixOf? (scheme.lead ++ stem ++ scheme.trail) =
        some (stem ++ scheme.trail) :=
      List.isPrefixOf?_eq_some_iff_append_eq.mpr (List.append_assoc _ _ _).symm
    have ended : scheme.trail.isSuffixOf? (stem ++ scheme.trail) = some stem :=
      List.isSuffixOf?_eq_some_iff_append_eq.mpr rfl
    rw [stem?, headed, Option.bind_some, ended]
    simp [present]

/-- A template under a stem that ends with its first language mark. -/
def Dangling (scheme : KeyScheme) (binding : EnvironmentVariable) (name template : Text) : Prop :=
  ∃ key, binding.key = some key ∧ scheme.stem? key = some (name ++ languageMark) ∧
    scheme.entry? binding = some (name, [], template)

/-- The catalog agrees with the look-ups: all that it lists is looked up. -/
def Faithful (scheme : KeyScheme) (environment : Environment) : Prop :=
  ∀ name language template, (name, language, template) ∈ (scheme.catalog environment).entries →
    scheme.lookup environment name language = some template

/-- The variables whose keys have a stem, all of them in upper case. -/
def StemsInUpperCase (scheme : KeyScheme) (environment : Environment) : Prop :=
  ∀ binding ∈ environment, ∀ key ∈ binding.key, ∀ stem ∈ scheme.stem? key, Text.IsUpperAscii stem

/-- A walk over the variables finds out if their stems are in upper case. -/
theorem all_isUnlowered_iff :
    environment.all (fun binding =>
        (binding.key.bind scheme.stem?).all fun stem => stem.all Text.isUnlowered) = true ↔
      scheme.StemsInUpperCase environment := by
  rw [List.all_eq_true]
  refine forall₂_congr fun binding _ => ?_
  cases binding.key with
  | none => simp
  | some key => cases cut : scheme.stem? key <;> simp [cut, Text.IsUpperAscii]

instance : Decidable (scheme.StemsInUpperCase environment) :=
  decidable_of_iff _ all_isUnlowered_iff

/-- A variable that holds a template has a key with a stem: the name alone, for the default
language, or the name, the mark, and the language before it was put in lower case. -/
theorem stem_of_entry? {binding : EnvironmentVariable} {name language template : Text}
    (entry : scheme.entry? binding = some (name, language, template)) :
    template ≠ [] ∧ binding.content = some template ∧
      ∃ key stem, binding.key = some key ∧ scheme.stem? key = some stem ∧
        (stem = name ∧ language = [] ∨
          ∃ behind, stem = name ++ languageMark ++ behind ∧ language = Text.lower behind) := by
  unfold entry? at entry
  split at entry
  · rename_i key content named held
    by_cases empty : content.isEmpty
    · simp [empty] at entry
    · rw [if_neg empty] at entry
      obtain ⟨stem, cut, same⟩ := Option.map_eq_some_iff.mp entry
      split at same
      · rename_i found behind broken
        simp only [Prod.mk.injEq] at same
        obtain ⟨rfl, rfl, rfl⟩ := same
        exact ⟨by simpa using empty, held, key, stem, named, cut,
          Or.inr ⟨behind, Text.eq_append_of_breakAtWord? broken, rfl⟩⟩
      · simp only [Prod.mk.injEq] at same
        obtain ⟨rfl, rfl, rfl⟩ := same
        exact ⟨by simpa using empty, held, key, stem, named, cut, Or.inl ⟨rfl, rfl⟩⟩
  · simp at entry

/-- A name in upper case is put together with its language as it was taken apart. -/
theorem key_lower {name behind : Text} (capitalName : Text.IsUpperAscii name)
    (capitalLanguage : Text.IsUpperAscii behind) (spoken : behind ≠ []) :
    scheme.key name (Text.lower behind) =
      scheme.lead ++ (name ++ languageMark ++ behind) ++ scheme.trail := by
  have present : (Text.lower behind).isEmpty = false := by
    rw [List.isEmpty_eq_false_iff]
    exact fun nothing => spoken ((Text.lower_eq_nil_iff capitalLanguage).mp nothing)
  rw [key, storedName, Text.upper_eq_self capitalName, present, Text.lower,
    Text.upper_lowerAfter capitalLanguage]
  simp

/-- A name in upper case stands alone in the key for the default language. -/
theorem key_nil {name : Text} (capital : Text.IsUpperAscii name) :
    scheme.key name [] = scheme.lead ++ name ++ scheme.trail := by
  rw [key, storedName, Text.upper_eq_self capital]
  simp

/-- A variable that holds a template in upper case has the key that is made up from name and
language, or is dangling. -/
theorem key_of_entry? {binding : EnvironmentVariable} {name language template : Text}
    (upperCase : ∀ key ∈ binding.key, ∀ stem ∈ scheme.stem? key, Text.IsUpperAscii stem)
    (entry : scheme.entry? binding = some (name, language, template)) :
    binding.key = some (scheme.key name language) ∨
      language = [] ∧ scheme.Dangling binding name template := by
  obtain ⟨_, _, key, stem, named, cut, parts⟩ := stem_of_entry? entry
  have capital := upperCase key named stem cut
  have written := eq_append_of_stem? cut
  rcases parts with ⟨rfl, rfl⟩ | ⟨behind, rfl, rfl⟩
  · exact Or.inl (by rw [named, written, key_nil capital])
  · obtain ⟨marked, capitalLanguage⟩ := Text.isUpperAscii_append.mp capital
    obtain ⟨capitalName, _⟩ := Text.isUpperAscii_append.mp marked
    by_cases missing : behind = []
    · subst missing
      rw [List.append_nil] at cut
      exact Or.inr ⟨rfl, key, named, cut, entry⟩
    · exact Or.inl (by rw [named, written, key_lower capitalName capitalLanguage missing])

/-- A variable that holds a template is looked up, if it has the key of a name and a language. -/
theorem lookup_of_mem {binding : EnvironmentVariable}
    {name language ownName ownLanguage template : Text}
    (distinct : (environment.filterMap EnvironmentVariable.key).Nodup)
    (member : binding ∈ environment) (named : binding.key = some (scheme.key name language))
    (entry : scheme.entry? binding = some (ownName, ownLanguage, template)) :
    scheme.lookup environment name language = some template := by
  obtain ⟨nonempty, held, key, stem, named', cut, _⟩ := stem_of_entry? entry
  obtain rfl : scheme.key name language = key := Option.some.inj (named.symm.trans named')
  have present : scheme.key name language ≠ [] := by
    obtain ⟨inside, whole⟩ := stem?_eq_some_iff.mp cut
    simp [whole, inside]
  rw [lookup, Environment.find?_of_mem distinct member present named, held]
  simp [nonempty]

/-- Gathering goes from variable to variable. -/
theorem catalog_append_singleton (earlier : Environment) (last : EnvironmentVariable) :
    scheme.catalog (earlier ++ [last]) =
      match scheme.entry? last with
      | some (name, language, template) =>
        (scheme.catalog earlier).insert name language template
      | none => scheme.catalog earlier := by
  rw [catalog, List.filterMap_append, List.foldl_append]
  cases entry : scheme.entry? last with
  | none => simp [entry, catalog]
  | some held => simp [entry, catalog]

/-- The last variable is in the catalog. -/
theorem lookup_catalog_of_last {last : EnvironmentVariable} {name language template : Text}
    (entry : scheme.entry? last = some (name, language, template)) (earlier : Environment) :
    (scheme.catalog (earlier ++ [last])).lookup name language = some template := by
  rw [catalog_append_singleton, entry]
  simp [Catalog.lookup_insert]

/-- The last variable leaves all templates alone but its own. -/
theorem lookup_catalog_of_other {last : EnvironmentVariable} {name language : Text}
    (different : ∀ template, scheme.entry? last ≠ some (name, language, template))
    (earlier : Environment) :
    (scheme.catalog (earlier ++ [last])).lookup name language =
      (scheme.catalog earlier).lookup name language := by
  rw [catalog_append_singleton]
  cases entry : scheme.entry? last with
  | none => rfl
  | some held =>
    obtain ⟨ownName, ownLanguage, template⟩ := held
    have apart : ¬(name = ownName ∧ language = ownLanguage) := by
      rintro ⟨rfl, rfl⟩
      exact different template entry
    simp [Catalog.lookup_insert, apart]

/-- A catalog holds the last template that the environment has under a name and a language.

Proof: by induction over the variables, from the last one. -/
theorem lookup_catalog_eq_some_iff {name language template : Text} :
    (scheme.catalog environment).lookup name language = some template ↔
      ∃ front binding back, environment = front ++ binding :: back ∧
        scheme.entry? binding = some (name, language, template) ∧
        ∀ later ∈ back, ∀ other, scheme.entry? later ≠ some (name, language, other) := by
  induction environment using List.reverseRecOn with
  | nil =>
    constructor
    · intro found
      exact absurd found (by simp [catalog, Catalog.lookup_empty])
    · rintro ⟨front, binding, back, impossible, _⟩
      simp at impossible
  | append_singleton earlier last inductionHypothesis =>
    constructor
    · intro found
      by_cases replaced : ∃ other, scheme.entry? last = some (name, language, other)
      · obtain ⟨other, entry⟩ := replaced
        rw [lookup_catalog_of_last entry earlier] at found
        obtain rfl : other = template := Option.some.inj found
        exact ⟨earlier, last, [], rfl, entry, by simp⟩
      · have different := not_exists.mp replaced
        rw [lookup_catalog_of_other different earlier] at found
        obtain ⟨front, binding, back, rfl, entry, newest⟩ := inductionHypothesis.mp found
        refine ⟨front, binding, back ++ [last], by simp, entry, ?_⟩
        intro later member
        rcases List.mem_append.mp member with inside | ended
        · exact newest later inside
        · rw [List.mem_singleton.mp ended]
          exact different
    · rintro ⟨front, binding, back, whole, entry, newest⟩
      rcases append_cons_cases whole with ⟨between, inside, rfl⟩ | ⟨between, _, ended⟩
      · rw [lookup_catalog_of_other (newest last (by simp)) earlier]
        refine inductionHypothesis.mpr ⟨front, binding, between, inside, entry, ?_⟩
        exact fun later member => newest later (List.mem_append_left _ member)
      · have same : last = binding := by
          cases between with
          | nil => exact (List.cons.inj ended).1
          | cons => simp at ended
        exact lookup_catalog_of_last (same ▸ entry) earlier

/-- Every template in the catalog is looked up, unless it stems from a dangling variable; and the
catalog agrees with the look-ups exactly if each template of a dangling variable is looked up
under its name, or replaced by a later variable.

Proof: the catalog lists, for each name and language, what the last variable for them holds. If
this variable is not dangling, its key is the one that is looked up, and no other variable has
this key. -/
theorem catalog_faithful_iff
    (distinct : (environment.filterMap EnvironmentVariable.key).Nodup)
    (upperCase : scheme.StemsInUpperCase environment) :
    (∀ name language template, (name, language, template) ∈ (scheme.catalog environment).entries →
      scheme.lookup environment name language = some template ∨
        language = [] ∧ ∃ binding ∈ environment, scheme.Dangling binding name template) ∧
      (scheme.Faithful environment ↔
        ∀ front binding back name template, environment = front ++ binding :: back →
          scheme.Dangling binding name template →
          scheme.lookup environment name [] = some template ∨
            ∃ later ∈ back, ∃ other, scheme.entry? later = some (name, [], other)) := by
  have looked (binding : EnvironmentVariable) (name language template : Text)
      (member : binding ∈ environment)
      (entry : scheme.entry? binding = some (name, language, template)) :
      scheme.lookup environment name language = some template ∨
        language = [] ∧ scheme.Dangling binding name template := by
    rcases key_of_entry? (upperCase binding member) entry with named | dangling
    · exact Or.inl (lookup_of_mem distinct member named entry)
    · exact Or.inr dangling
  refine ⟨?_, ?_, ?_⟩
  · intro name language template listed
    obtain ⟨front, binding, back, whole, entry, _⟩ :=
      lookup_catalog_eq_some_iff.mp (Catalog.mem_entries_iff.mp listed)
    have member : binding ∈ environment := by simp [whole]
    rcases looked binding name language template member entry with found | ⟨default, dangling⟩
    · exact Or.inl found
    · exact Or.inr ⟨default, binding, member, dangling⟩
  · intro faithful front binding back name template whole dangling
    by_cases replaced : ∃ later ∈ back, ∃ other, scheme.entry? later = some (name, [], other)
    · exact Or.inr replaced
    · obtain ⟨_, _, _, entry⟩ := dangling
      have newest : ∀ later ∈ back, ∀ other, scheme.entry? later ≠ some (name, [], other) :=
        fun later member other held => replaced ⟨later, member, other, held⟩
      have found := lookup_catalog_eq_some_iff.mpr ⟨front, binding, back, whole, entry, newest⟩
      exact Or.inl (faithful name [] template (Catalog.mem_entries_iff.mpr found))
  · intro settled name language template listed
    obtain ⟨front, binding, back, whole, entry, newest⟩ :=
      lookup_catalog_eq_some_iff.mp (Catalog.mem_entries_iff.mp listed)
    have member : binding ∈ environment := by simp [whole]
    rcases looked binding name language template member entry with found | ⟨rfl, dangling⟩
    · exact found
    · rcases settled front binding back name template whole dangling with
        found | ⟨later, inside, other, held⟩
      · exact found
      · exact absurd held (newest later inside other)

/-- A dangling variable that is replaced later, one for the language of two hyphens, and one that
is empty. -/
theorem catalog_faithful_iff_replaced :
    let scheme : KeyScheme := {}
    let environment : Environment :=
      [⟨some "CTOR_ENSURE_A--_DESC".toList, some ['x']⟩,
        ⟨some "CTOR_ENSURE_B----_DESC".toList, some ['y']⟩,
        ⟨some "CTOR_ENSURE_C--_DESC".toList, some []⟩,
        ⟨some "CTOR_ENSURE_A_DESC".toList, some ['z']⟩]
    (environment.filterMap EnvironmentVariable.key).Nodup ∧
      scheme.StemsInUpperCase environment ∧ scheme.Faithful environment := by
  intro scheme environment
  have distinct : (environment.filterMap EnvironmentVariable.key).Nodup := by decide
  have upperCase : scheme.StemsInUpperCase environment := by decide
  obtain ⟨_, settled⟩ := catalog_faithful_iff distinct upperCase
  refine ⟨distinct, upperCase, settled.mpr ?_⟩
  intro front binding back name template whole ⟨_, _, _, entry⟩
  have entries : environment.map scheme.entry? = [some (['A'], [], ['x']),
      some (['B'], ['-', '-'], ['y']), none, some (['A'], [], ['z'])] := by decide
  rw [whole, List.map_append, List.map_cons, entry] at entries
  have found : name = ['A'] ∧
      (some (['A'], [], ['z']) ∈ back.map scheme.entry? ∨ template = ['z']) := by
    generalize front.map scheme.entry? = before at entries
    rcases before with _ | ⟨_, _ | ⟨_, _ | ⟨_, _ | ⟨_, more⟩⟩⟩⟩
    · simp_all
    · simp_all
    · simp_all
    · simp_all
    · simp at entries
  obtain ⟨rfl, replaced | rfl⟩ := found
  · obtain ⟨later, member, held⟩ := List.mem_map.mp replaced
    exact Or.inr ⟨later, member, ['z'], held⟩
  · have looked : scheme.lookup environment ['A'] [] = some ['z'] := by decide
    exact Or.inl looked

/-- Not every catalog agrees with the look-ups: a dangling stem is gathered under a name that has
no variable of its own. -/
theorem not_faithful_dangling :
    let scheme : KeyScheme := {}
    let environment : Environment := [⟨some "CTOR_ENSURE_A--_DESC".toList, some ['x']⟩]
    (environment.filterMap EnvironmentVariable.key).Nodup ∧
      scheme.StemsInUpperCase environment ∧
      (['A'], [], ['x']) ∈ (scheme.catalog environment).entries ∧
      scheme.lookup environment ['A'] [] = none ∧ ¬scheme.Faithful environment := by
  intro scheme environment
  have upperCase : scheme.StemsInUpperCase environment := by decide
  have listed : (['A'], [], ['x']) ∈ (scheme.catalog environment).entries := by decide
  have missing : scheme.lookup environment ['A'] [] = none := by decide
  refine ⟨by decide, upperCase, listed, missing, ?_⟩
  intro faithful
  have found := faithful ['A'] [] ['x'] listed
  rw [missing] at found
  exact absurd found (by simp)

end KeyScheme

end Phrasebook
