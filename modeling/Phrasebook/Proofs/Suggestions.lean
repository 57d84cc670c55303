import Mathlib
import Phrasebook.Proofs.Distances
import Phrasebook.Proofs.Environments
import Phrasebook.Renderer

/-!
# Suggested names and the templates under them

What is suggested for a missing name is among the names that the source lists. A source that reads
the environment lists each name that a key is made up for, whatever the variable holds; but a
template is looked up only in a variable that is not empty and holds a text. A variable without a
template is hollow. So a hollow variable can be suggested, and who follows the suggestion finds
nothing.

And it will be: a misspelling that puts one strange character behind the name of a hollow variable
brings up this name before all others.
-/

namespace Phrasebook

namespace Suggestion

/-- A name precedes another if it is nearer, or as near and not behind it in the order of names. -/
theorem precedes_iff {first second : Nat × Text} :
    precedes first second = true ↔
      first.1 < second.1 ∨ first.1 = second.1 ∧ ¬second.2 < first.2 := by
  simp [precedes]

/-- Of two names one precedes the other. -/
theorem precedes_total (first second : Nat × Text) :
    (precedes first second || precedes second first) = true := by
  rw [Bool.or_eq_true, precedes_iff, precedes_iff]
  rcases Nat.lt_trichotomy first.1 second.1 with nearer | same | farther
  · exact Or.inl (Or.inl nearer)
  · by_cases behind : second.2 < first.2
    · exact Or.inr (Or.inr ⟨same.symm, List.lt_asymm behind⟩)
    · exact Or.inl (Or.inr ⟨same, behind⟩)
  · exact Or.inr (Or.inl farther)

/-- What precedes a name precedes all that this name precedes. -/
theorem precedes_trans (first second third : Nat × Text) (earlier : precedes first second = true)
    (later : precedes second third = true) : precedes first third = true := by
  rw [precedes_iff] at earlier later ⊢
  rcases earlier with nearer | ⟨same, before⟩
  · left
    omega
  · rcases later with nearer | ⟨same', before'⟩
    · left
      omega
    · have ordered := List.le_trans (List.not_lt.mp before) (List.not_lt.mp before')
      exact Or.inr ⟨same.trans same', List.not_lt.mpr ordered⟩

/-- Names that precede each other are the same. -/
theorem precedes_antisymm {first second : Nat × Text} (earlier : precedes first second = true)
    (later : precedes second first = true) : first = second := by
  rw [precedes_iff] at earlier later
  rcases earlier with nearer | ⟨same, before⟩
  · omega
  · rcases later with nearer | ⟨_, behind⟩
    · omega
    · exact Prod.ext same (List.le_antisymm (List.not_lt.mp before) (List.not_lt.mp behind))

/-- A name is a candidate at its distance if it is listed, differs from the wanted one and is near
to it. -/
theorem mem_candidates_iff {wanted name : Text} {steps : Nat} {names : List Text} :
    (steps, name) ∈ candidates wanted names ↔
      name ∈ names ∧ name ≠ wanted ∧ steps = distance wanted name ∧ steps ≤ tolerance wanted := by
  rw [candidates, List.mem_filter, List.mem_map]
  constructor
  · rintro ⟨⟨other, kept, same⟩, near⟩
    obtain ⟨rfl, rfl⟩ := Prod.mk.inj same
    obtain ⟨listed, different⟩ := List.mem_filter.mp kept
    exact ⟨listed, by simpa using different, rfl, by simpa using near⟩
  · rintro ⟨listed, different, rfl, near⟩
    exact ⟨⟨name, List.mem_filter.mpr ⟨listed, by simpa using different⟩, rfl⟩, by simpa using near⟩

/-- Only listed names are suggested. -/
theorem mem_of_mem_suggestions {wanted name : Text} {names : List Text}
    (suggested : name ∈ suggestions wanted names) : name ∈ names := by
  obtain ⟨⟨steps, same⟩, taken, rfl⟩ := List.mem_map.mp suggested
  exact (mem_candidates_iff.mp (List.mem_mergeSort.mp (List.mem_of_mem_take taken))).1

/-- A candidate that precedes all candidates is suggested first. -/
theorem suggestions_eq_cons {wanted : Text} {least : Nat × Text} {names : List Text}
    (candidate : least ∈ candidates wanted names)
    (before : ∀ other ∈ candidates wanted names, precedes least other = true) :
    ∃ others, suggestions wanted names = least.2 :: others := by
  have ordered := List.pairwise_mergeSort precedes_trans precedes_total (candidates wanted names)
  have member : least ∈ (candidates wanted names).mergeSort precedes :=
    List.mem_mergeSort.mpr candidate
  cases sorted : (candidates wanted names).mergeSort precedes with
  | nil => simp [sorted] at member
  | cons first others =>
    have here : precedes least first = true :=
      before first (List.mem_mergeSort.mp (sorted ▸ List.mem_cons_self))
    obtain rfl : least = first := by
      rw [sorted] at member ordered
      rcases List.mem_cons.mp member with same | later
      · exact same
      · exact precedes_antisymm here ((List.pairwise_cons.mp ordered).1 least later)
    exact ⟨(others.take 2).map Prod.snd, by simp [suggestions, sorted]⟩

/-- For a name that goes on with a character that no listed name has, a listed beginning of it is
suggested first: no other name is as near and comes before it. -/
theorem suggestions_snoc {name : Text} {last : Char} {names : List Text} (listed : name ∈ names)
    (strange : ∀ other ∈ names, last ∉ other) :
    ∃ others, suggestions (name ++ [last]) names = name :: others := by
  have candidate : (1, name) ∈ candidates (name ++ [last]) names := by
    refine mem_candidates_iff.mpr ⟨listed, by simp, (distance_snoc name last).symm, ?_⟩
    rw [tolerance]
    split <;> omega
  refine suggestions_eq_cons candidate fun ⟨steps, other⟩ found => precedes_iff.mpr ?_
  obtain ⟨present, different, rfl, _⟩ := mem_candidates_iff.mp found
  have apart : distance (name ++ [last]) other ≠ 0 := by
    intro same
    exact different (distance_eq_zero_iff.mp same).symm
  by_cases near : distance (name ++ [last]) other ≤ 1
  · refine Or.inr ⟨by omega, ?_⟩
    rcases eq_of_distance_snoc_le_one (strange other present) near with rfl | ⟨changed, rfl⟩
    · exact List.lt_irrefl _
    · exact List.not_lt.mpr List.le_append_left
  · left
    omega

end Suggestion

/-- What a renderer suggests when a template is missing in the default language. -/
theorem Renderer.render_eq_notFound_iff {renderer : Renderer} {name wanted key : Text}
    {bindings : Dictionary Value} {functions : Registry} {suggestions : List Text}
    (unset : renderer.defaultLanguage = []) :
    renderer.render name bindings functions [] = .error (.notFound wanted key suggestions) ↔
      renderer.source.lookup name [] = none ∧ name = wanted ∧ renderer.source.key name [] = key ∧
        Suggestion.suggestions (renderer.source.storedName name) renderer.source.names =
          suggestions := by
  cases found : renderer.source.lookup name [] with
  | none => simp [render, template, unset, found, Except.bind]
  | some held =>
    have rendered : renderer.render name bindings functions [] =
        renderer.renderText held bindings functions := by
      simp [render, template, unset, found, Except.bind]
    rw [rendered, renderText]
    split
    · simp
    · simp

namespace Environment

/-- No key holds an equals sign, as one ends the key in the definition of a variable. -/
def KeysClosed (environment : Environment) : Prop :=
  ∀ binding ∈ environment, ∀ key ∈ binding.key, '=' ∉ key

instance (environment : Environment) : Decidable environment.KeysClosed :=
  decidable_of_iff
    (environment.all (fun binding => binding.key.all fun key => !key.contains '=') = true) (by
      simp [KeysClosed, Option.all_eq_true])

/-- A key without an equals sign that no variable has is not found in another way either. -/
theorem find?_eq_none {environment : Environment} {key : Text} (closed : environment.KeysClosed)
    (free : '=' ∉ key) (absent : ∀ binding ∈ environment, binding.key ≠ some key) :
    environment.find? key = none := by
  have unnamed : List.find? (fun binding => binding.key == some key) environment = none := by
    simpa [List.find?_eq_none] using absent
  rw [find?, unnamed, ite_eq_left_iff]
  intro _
  refine List.findSome?_eq_none_iff.mpr fun binding member => ?_
  rw [EnvironmentVariable.contentBehind?]
  split
  · rename_i own content named held
    refine Option.eq_none_iff_forall_ne_some.mpr fun rest behind => absent binding member ?_
    have split : key ++ '=' :: rest = own ++ '=' :: content := by
      simpa using List.isPrefixOf?_eq_some_iff_append_eq.mp behind
    rw [named, (Text.parts_eq_of_mark split free (closed binding member own named)).1]
  · rfl

end Environment

namespace KeyScheme

variable {scheme : KeyScheme} {environment : Environment} {name : Text}

/-- The first variable with the key of a name holds no template: it is empty, or it is no text. -/
def Hollow (scheme : KeyScheme) (environment : Environment) (name : Text) : Prop :=
  ∃ front binding back, environment = front ++ binding :: back ∧
    binding.key = some (scheme.lead ++ name ++ scheme.trail) ∧
    (∀ earlier ∈ front, earlier.key ≠ binding.key) ∧
    (binding.content = none ∨ binding.content = some [])

/-- What is suggested when the template of a name is missing in the default language. -/
def Suggests (scheme : KeyScheme) (environment : Environment) (name : Text)
    (suggestions : List Text) : Prop :=
  ∃ (functions further : Registry) (bindings : Dictionary Value) (wanted key : Text),
    Renderer.render ⟨scheme.source environment, functions, []⟩ name bindings further [] =
      .error (.notFound wanted key suggestions)

/-- Whatever template is missing, those that are suggested instead are there. -/
def SuggestsHeld (scheme : KeyScheme) (environment : Environment) : Prop :=
  ∀ name suggestions, scheme.Suggests environment name suggestions →
    ∀ suggestion ∈ suggestions, ∃ template, scheme.lookup environment suggestion [] = some template

/-- Suggestions are made when a template is missing, by the names that are listed. -/
theorem suggests_iff {suggestions : List Text} :
    scheme.Suggests environment name suggestions ↔
      scheme.lookup environment name [] = none ∧
        Suggestion.suggestions (storedName name) (scheme.names environment) = suggestions := by
  constructor
  · rintro ⟨functions, further, bindings, wanted, key, failed⟩
    obtain ⟨missing, _, _, same⟩ := (Renderer.render_eq_notFound_iff rfl).mp failed
    exact ⟨missing, same⟩
  · rintro ⟨missing, same⟩
    exact ⟨Dictionary.empty, Dictionary.empty, Dictionary.empty, name, scheme.key name [],
      (Renderer.render_eq_notFound_iff rfl).mpr ⟨missing, rfl, rfl, same⟩⟩

/-- A name is listed if a key is made up for it. -/
theorem mem_names_iff :
    name ∈ scheme.names environment ↔
      name ≠ [] ∧ Text.breakAtWord? languageMark name = none ∧
        ∃ binding ∈ environment, binding.key = some (scheme.lead ++ name ++ scheme.trail) := by
  simp only [names, List.mem_mergeSort, List.mem_filter, List.mem_filterMap,
    Option.bind_eq_some_iff, stem?_eq_some_iff, Option.isNone_iff_eq_none]
  constructor
  · rintro ⟨⟨binding, member, key, named, present, rfl⟩, unmarked⟩
    exact ⟨present, unmarked, binding, member, named⟩
  · rintro ⟨present, unmarked, binding, member, named⟩
    exact ⟨⟨binding, member, _, named, present, rfl⟩, unmarked⟩

/-- A listed name is in upper case if all stems are. -/
theorem isUpperAscii_of_mem_names (upperCase : scheme.StemsInUpperCase environment)
    (listed : name ∈ scheme.names environment) : Text.IsUpperAscii name := by
  obtain ⟨present, _, binding, member, named⟩ := mem_names_iff.mp listed
  exact upperCase binding member _ named name (stem?_eq_some_iff.mpr ⟨present, rfl⟩)

/-- The first variable with the key of a name is looked up. -/
theorem lookup_of_first {front back : Environment} {binding : EnvironmentVariable}
    (capital : Text.IsUpperAscii name) (present : name ≠ [])
    (named : binding.key = some (scheme.lead ++ name ++ scheme.trail))
    (first : ∀ earlier ∈ front, earlier.key ≠ binding.key) :
    scheme.lookup (front ++ binding :: back) name [] =
      binding.content.filter fun template => !template.isEmpty := by
  rw [lookup, key_nil capital,
    Environment.find?_of_first (by simp [present]) named (named ▸ first)]

/-- For a listed name there is a first variable with its key. -/
theorem exists_first_of_mem_names (listed : name ∈ scheme.names environment) :
    ∃ front binding back, environment = front ++ binding :: back ∧
      binding.key = some (scheme.lead ++ name ++ scheme.trail) ∧
      ∀ earlier ∈ front, earlier.key ≠ binding.key := by
  obtain ⟨_, _, present, member, named⟩ := mem_names_iff.mp listed
  have search : (List.find? (fun binding => binding.key == present.key) environment).isSome :=
    List.find?_isSome.mpr ⟨present, member, by simp⟩
  obtain ⟨binding, found⟩ := Option.isSome_iff_exists.mp search
  obtain ⟨same, front, back, rfl, before⟩ := List.find?_eq_some_iff_append.mp found
  have key : binding.key = present.key := by simpa using same
  refine ⟨front, binding, back, rfl, key.trans named, fun earlier inside => ?_⟩
  simpa [key] using before earlier inside

/-- A listed name has a template unless it is hollow. -/
theorem exists_lookup_iff (upperCase : scheme.StemsInUpperCase environment)
    (listed : name ∈ scheme.names environment) :
    (∃ template, scheme.lookup environment name [] = some template) ↔
      ¬scheme.Hollow environment name := by
  have capital := isUpperAscii_of_mem_names upperCase listed
  have inhabited : name ≠ [] := (mem_names_iff.mp listed).1
  constructor
  · rintro ⟨template, held⟩ ⟨front, binding, back, rfl, named, first, hollow⟩
    rw [lookup_of_first capital inhabited named first] at held
    rcases hollow with unread | empty
    · simp [unread] at held
    · simp [empty] at held
  · intro solid
    obtain ⟨front, binding, back, rfl, named, first⟩ := exists_first_of_mem_names listed
    rw [lookup_of_first capital inhabited named first]
    cases content : binding.content with
    | none => exact absurd ⟨front, binding, back, rfl, named, first, Or.inl content⟩ solid
    | some template =>
      by_cases empty : template = []
      · subst empty
        exact absurd ⟨front, binding, back, rfl, named, first, Or.inr content⟩ solid
      · exact ⟨template, by simp [empty]⟩

/-- A character that is not ASCII, and that is its own upper case. -/
def strange : Char := '×'

/-- A name in upper case stays as it is with a strange character behind it. -/
theorem storedName_strange (capital : Text.IsUpperAscii name) :
    storedName (name ++ [strange]) = name ++ [strange] := by
  have kept : List.flatMap Text.upperChar [strange] = [strange] := by decide
  have front : List.flatMap Text.upperChar name = name := Text.upper_eq_self capital
  rw [storedName, Text.upper, List.flatMap_append, kept, front]

/-- There is no template under a listed name with a strange character behind it. -/
theorem lookup_strange (upperCase : scheme.StemsInUpperCase environment)
    (closed : environment.KeysClosed) (listed : name ∈ scheme.names environment) :
    scheme.lookup environment (name ++ [strange]) [] = none := by
  have written : scheme.key (name ++ [strange]) [] =
      scheme.lead ++ (name ++ [strange]) ++ scheme.trail := by
    rw [key, storedName_strange (isUpperAscii_of_mem_names upperCase listed)]
    simp
  have absent : ∀ binding ∈ environment,
      binding.key ≠ some (scheme.lead ++ (name ++ [strange]) ++ scheme.trail) := by
    intro binding member named
    have cut : scheme.stem? (scheme.lead ++ (name ++ [strange]) ++ scheme.trail) =
        some (name ++ [strange]) :=
      stem?_eq_some_iff.mpr ⟨List.concat_ne_nil strange name, rfl⟩
    have capital := upperCase binding member _ named _ cut
    exact absurd (Text.isUpperAscii_append.mp capital).2 (by decide)
  have free : '=' ∉ scheme.lead ++ (name ++ [strange]) ++ scheme.trail := by
    obtain ⟨_, _, binding, member, named⟩ := mem_names_iff.mp listed
    have without := closed binding member _ named
    have other : '=' ≠ strange := by decide
    simp_all
  rw [lookup, written, Environment.find?_eq_none closed free absent]
  rfl

/-- All that is suggested for a missing template is listed, and a template is there exactly if the
name is not hollow. In an environment as a process has it, suggestions can be relied on exactly if
no listed name is hollow.

Proof: what is looked up for a listed name is its first variable. A hollow name is suggested first
where a strange character behind it is misspelt. -/
theorem suggestions_held_iff (upperCase : scheme.StemsInUpperCase environment) :
    (∀ name suggestions, scheme.Suggests environment name suggestions →
      ∀ suggestion ∈ suggestions, suggestion ∈ scheme.names environment ∧
        ((∃ template, scheme.lookup environment suggestion [] = some template) ↔
          ¬scheme.Hollow environment suggestion)) ∧
      (environment.KeysClosed →
        (scheme.SuggestsHeld environment ↔
          ∀ name ∈ scheme.names environment, ¬scheme.Hollow environment name)) := by
  have told (name : Text) (suggestions : List Text)
      (suggests : scheme.Suggests environment name suggestions) (suggestion : Text)
      (member : suggestion ∈ suggestions) : suggestion ∈ scheme.names environment ∧
        ((∃ template, scheme.lookup environment suggestion [] = some template) ↔
          ¬scheme.Hollow environment suggestion) := by
    obtain ⟨_, rfl⟩ := suggests_iff.mp suggests
    have listed := Suggestion.mem_of_mem_suggestions member
    exact ⟨listed, exists_lookup_iff upperCase listed⟩
  refine ⟨told, fun closed => ⟨fun held name listed => ?_, fun solid name suggestions suggests => ?_⟩⟩
  -- a name with a strange character behind it is missing, and the listed name is next to it
  · have strangers : ∀ other ∈ scheme.names environment, strange ∉ other := by
      intro other present member
      have capital := isUpperAscii_of_mem_names upperCase present strange member
      exact absurd capital (by decide)
    obtain ⟨others, first⟩ := Suggestion.suggestions_snoc listed strangers
    have suggests : scheme.Suggests environment (name ++ [strange]) (name :: others) := by
      refine suggests_iff.mpr ⟨lookup_strange upperCase closed listed, ?_⟩
      rw [storedName_strange (isUpperAscii_of_mem_names upperCase listed), first]
    exact (exists_lookup_iff upperCase listed).mp
      (held (name ++ [strange]) (name :: others) suggests name List.mem_cons_self)
  · intro suggestion member
    obtain ⟨listed, there⟩ := told name suggestions suggests suggestion member
    exact there.mpr (solid suggestion listed)

/-- An empty variable, one that is no text, one for a language only, and one that holds a template:
two of them are suggested, and only one can be rendered. -/
theorem suggestions_held_iff_mixed :
    let scheme : KeyScheme := {}
    let environment : Environment :=
      [⟨some "CTOR_ENSURE_MINLEN_DESC".toList, some []⟩,
        ⟨some "CTOR_ENSURE_PATTERN_DESC".toList, none⟩,
        ⟨some "CTOR_ENSURE_MINLEN--DE_DESC".toList, some ['x']⟩,
        ⟨some "CTOR_ENSURE_MINLEX_DESC".toList, some ['y']⟩, ⟨none, some ['z']⟩]
    scheme.StemsInUpperCase environment ∧ environment.KeysClosed ∧
      scheme.Suggests environment "minley".toList ["MINLEN".toList, "MINLEX".toList] ∧
      scheme.Hollow environment "MINLEN".toList ∧ ¬scheme.Hollow environment "MINLEX".toList ∧
      ¬scheme.SuggestsHeld environment := by
  intro scheme environment
  have upperCase : scheme.StemsInUpperCase environment := by decide
  have closed : environment.KeysClosed := by decide
  have suggests :
      scheme.Suggests environment "minley".toList ["MINLEN".toList, "MINLEX".toList] :=
    suggests_iff.mpr ⟨by decide, by cbv⟩
  have missing : scheme.lookup environment "MINLEN".toList [] = none := by decide
  have held : scheme.lookup environment "MINLEX".toList [] = some ['y'] := by decide
  obtain ⟨told, relied⟩ := suggestions_held_iff upperCase
  obtain ⟨listed, there⟩ := told _ _ suggests "MINLEN".toList (by simp)
  obtain ⟨_, there'⟩ := told _ _ suggests "MINLEX".toList (by simp)
  have hollow : scheme.Hollow environment "MINLEN".toList := by
    by_contra solid
    obtain ⟨template, found⟩ := there.mpr solid
    rw [missing] at found
    exact absurd found (by simp)
  exact ⟨upperCase, closed, suggests, hollow, there'.mp ⟨['y'], held⟩,
    fun trusted => (relied closed).mp trusted _ listed hollow⟩

/-- Not every suggestion can be rendered: an empty variable counts as missing, and is suggested. -/
theorem not_suggestsHeld_empty :
    let scheme : KeyScheme := {}
    let environment : Environment := [⟨some "CTOR_ENSURE_MINLEN_DESC".toList, some []⟩]
    scheme.StemsInUpperCase environment ∧ environment.KeysClosed ∧
      scheme.Suggests environment "MINLEX".toList ["MINLEN".toList] ∧
      scheme.lookup environment "MINLEN".toList [] = none ∧ ¬scheme.SuggestsHeld environment := by
  intro scheme environment
  have suggests : scheme.Suggests environment "MINLEX".toList ["MINLEN".toList] :=
    suggests_iff.mpr ⟨by decide, by cbv⟩
  have missing : scheme.lookup environment "MINLEN".toList [] = none := by decide
  refine ⟨by decide, by decide, suggests, missing, fun held => ?_⟩
  obtain ⟨template, found⟩ := held _ _ suggests "MINLEN".toList List.mem_cons_self
  rw [missing] at found
  exact absurd found (by simp)

end KeyScheme

end Phrasebook
