import Mathlib
import Phrasebook.Proofs.Escaping
import Phrasebook.Template.Rendering

/-!
# Names listed in any order

The search for calls and protection are given the names that a scope knows as lists. Only the set of
the names matters to them: the search asks at each place whether one of the names begins a call
there, and protection asks whether one of them stands before a colon. At a brace, however,
protection takes the first listed name that stands before a closing brace, and goes on behind it.
Here the order does not matter because at most one name can stand there: if no name has a closing
brace in it, it is the text up to the first one.

So the names may be listed in any order and more than once, and names that begin or end one another
do no harm. To say the same of a whole rendering, the listing is made a parameter of it: every step
then consults this listing, however it came about. Renderings with listings of the same names agree,
and agree with the one that lists the names of its scope in the order of the dictionaries.
-/

namespace Phrasebook.Template

/-- The names of functions and those of variables, each in some order and perhaps repeated. -/
structure Listing where
  functionNames : List Text
  variableNames : List Text

/-- Two listings name the same functions and the same variables. -/
structure Listing.Alike (listing other : Listing) : Prop where
  functionNames : ∀ name, name ∈ listing.functionNames ↔ name ∈ other.functionNames
  variableNames : ∀ name, name ∈ listing.variableNames ↔ name ∈ other.variableNames

/-- No name of a variable has a closing brace in it. -/
def Listing.Closed (listing : Listing) : Prop :=
  ∀ name ∈ listing.variableNames, '}' ∉ name

/-- Whether two listings name the same is decided by looking each name up in the other one. -/
instance Listing.decidableAlike (listing other : Listing) : Decidable (listing.Alike other) :=
  decidable_of_iff
    ((listing.functionNames ⊆ other.functionNames ∧ other.functionNames ⊆ listing.functionNames) ∧
      listing.variableNames ⊆ other.variableNames ∧ other.variableNames ⊆ listing.variableNames)
    ⟨fun ⟨⟨forth, back⟩, forth', back'⟩ =>
        ⟨fun _ => ⟨@forth _, @back _⟩, fun _ => ⟨@forth' _, @back' _⟩⟩,
      fun alike =>
        ⟨⟨fun _ => (alike.functionNames _).mp, fun _ => (alike.functionNames _).mpr⟩,
          fun _ => (alike.variableNames _).mp, fun _ => (alike.variableNames _).mpr⟩⟩

instance Listing.decidableClosed (listing : Listing) : Decidable listing.Closed :=
  inferInstanceAs (Decidable (∀ name ∈ listing.variableNames, '}' ∉ name))

/-- The names that a scope knows, in the order of its dictionaries. -/
def Scope.listing (scope : Scope) : Listing :=
  ⟨scope.functions.keys, scope.bindings.keys⟩

/-! ### Rendering with a listing -/

namespace Listing

/-- Puts the protected result of a call in its place; the names are those of the listing. -/
def splice (listing : Listing) (text : Text) (call : Call) (result : Text) :
    Except CallError (Text × Splice) := do
  let (before, _) ← cutAt text call.start
  let freed := call.trailing = some .colon ∧ ¬Text.endsWithName listing.functionNames result
  let replacement := if freed then result ++ [':'] else result
  let stop := if freed then call.stop + 2 else call.stop
  let (_, after) ← cutAt text stop
  pure (before ++ replacement ++ after,
    ⟨call.start, stop, Text.width before + Text.width replacement⟩)

/-- Resolves the call at a byte offset of a text; the names are those of the listing. -/
def resolve (listing : Listing) (scope : Scope) (text : Text) (start : Nat) :
    Except CallError (Option (Text × Splice)) :=
  match Call.read? text start with
  | none => .error (.misplaced start)
  | some (.error fault) => .error (.malformed fault)
  | some (.ok call) =>
    match scope.functions.find? call.name with
    | none => .ok none
    | some function =>
      match function (call.arguments.map scope.argumentText) with
      | none => .error (.noResult call.name)
      | some result =>
        let inert := protect listing.functionNames listing.variableNames result
        (listing.splice text call inert).map some

/-- Resolves one more call; a fault is reported at its place in the template. -/
def step (listing : Listing) (scope : Scope) (progress : Progress) (start : Nat) :
    Except CallError Progress :=
  match listing.resolve scope progress.text start with
  | .error (.malformed fault) => .error (.malformed (fault.moveTo (progress.trace fault.offset)))
  | .error error => .error error
  | .ok none => .ok progress
  | .ok (some (text, splice)) => .ok ⟨text, splice :: progress.splices⟩

/-- The text that a template stands for in a scope; the names are those of the listing. -/
def render (listing : Listing) (scope : Scope) (template : Text) : Except CallError Text :=
  ((callSites listing.functionNames template).foldlM (listing.step scope) ⟨template, []⟩).map
    fun progress => finish scope.bindings progress.text

/-- With the listing of its scope this is the rendering of a template. -/
theorem render_listing (scope : Scope) (template : Text) :
    scope.listing.render scope template = Template.render scope template :=
  rfl

end Listing

variable {listing other : Listing}

/-- A test of lists of names, whether one of them passes it, depends on their set only. -/
theorem any_alike {names names' : List Text} (same : ∀ name, name ∈ names ↔ name ∈ names')
    (test : Text → Bool) : names.any test = names'.any test := by
  rw [Bool.eq_iff_iff, List.any_eq_true, List.any_eq_true]
  exact exists_congr fun name => and_congr_left fun _ => same name

/-- The search for calls depends on the set of the names only. -/
theorem callSitesFrom_alike {names names' : List Text}
    (same : ∀ name, name ∈ names ↔ name ∈ names') (found : List Nat) (offset : Nat) (text : Text) :
    callSitesFrom names found offset text = callSitesFrom names' found offset text := by
  induction text generalizing found offset with
  | nil => rfl
  | cons first rest inductionHypothesis =>
    rw [callSitesFrom, callSitesFrom, any_alike same]
    exact inductionHypothesis _ _

/-- Where no listed name has a closing brace in it, at most one of them stands before one: a known
reference is the listed name before the first closing brace. -/
theorem knownReference?_eq_some_iff {names : List Text} (closed : ∀ name ∈ names, '}' ∉ name)
    {text name after : Text} :
    knownReference? names text = some (name, after) ↔
      name ∈ names ∧ name ≠ [] ∧ text = name ++ '}' :: after := by
  constructor
  · intro known
    obtain ⟨candidate, _, found⟩ := List.exists_of_findSome?_eq_some known
    obtain ⟨member, whole⟩ := eq_append_of_knownReference? known
    refine ⟨member, ?_, whole⟩
    rintro rfl
    split at found
    · simp at found
    · rename_i filled
      split at found
      · simp_all
      · simp at found
  · rintro ⟨member, nonempty, rfl⟩
    obtain ⟨found, remaining, known⟩ := exists_knownReference? member nonempty after
    obtain ⟨member', same⟩ := eq_append_of_knownReference? known
    obtain ⟨rfl, rfl⟩ := Text.parts_eq_of_mark same (closed name member) (closed found member')
    exact known

/-- Which reference stands at a place depends on the set of the names only. -/
theorem knownReference?_alike (alike : listing.Alike other) (closed : listing.Closed)
    (text : Text) :
    knownReference? listing.variableNames text = knownReference? other.variableNames text := by
  have closed' : other.Closed :=
    fun name member => closed name ((alike.variableNames name).mpr member)
  apply Option.ext
  rintro ⟨name, after⟩
  rw [knownReference?_eq_some_iff closed, knownReference?_eq_some_iff closed',
    alike.variableNames name]

/-- Protection depends on the set of the names only. -/
theorem protectAfter_alike (alike : listing.Alike other) (closed : listing.Closed)
    (seen text : Text) :
    protectAfter listing.functionNames listing.variableNames seen text =
      protectAfter other.functionNames other.variableNames seen text := by
  have follows (seen : Text) : Text.followsName listing.functionNames seen =
      Text.followsName other.functionNames seen := any_alike alike.functionNames _
  fun_induction protectAfter listing.functionNames listing.variableNames seen text with
  | case1 => rw [protectAfter]
  | case2 seen first rest escaped colon inductionHypothesis =>
    rw [follows] at colon
    rw [inductionHypothesis, protectAfter.eq_def _ _ seen (first :: rest)]
    dsimp only
    rw [if_pos colon]
  | case3 seen first rest escaped notColon quote inductionHypothesis =>
    rw [follows] at notColon
    rw [inductionHypothesis, protectAfter.eq_def _ _ seen (first :: rest)]
    dsimp only
    rw [if_neg notColon, if_pos quote]
  | case4 seen first rest escaped notColon notQuote brace name after known _ inductionHypothesis =>
    simp only [Bool.and_eq_true, beq_iff_eq, Bool.not_eq_true', escaped] at brace
    obtain ⟨rfl, bare⟩ := brace
    rw [knownReference?_alike alike closed] at known
    rw [protectAfter_known (by simpa using bare) known, inductionHypothesis]
    rfl
  | case5 seen first rest escaped notColon notQuote brace unknown inductionHypothesis =>
    simp only [Bool.and_eq_true, beq_iff_eq] at brace
    obtain ⟨rfl, _⟩ := brace
    rw [knownReference?_alike alike closed] at unknown
    rw [protectAfter_brace (Or.inr unknown), inductionHypothesis]
  | case6 seen first rest escaped notColon notQuote notBrace inductionHypothesis =>
    rw [follows] at notColon
    rw [inductionHypothesis, protectAfter.eq_def _ _ seen (first :: rest)]
    dsimp only
    rw [if_neg notColon, if_neg notQuote, if_neg notBrace]

/-- With a closing brace in a name the order does matter: of two names that stand at one place, the
first listed one is protected. -/
example :
    protect [] [['a'], ['a', '}', 'b']] ['{', 'a', '}', 'b', '}'] =
        ['\\', '{', 'a', '\\', '}', 'b', '}'] ∧
      protect [] [['a', '}', 'b'], ['a']] ['{', 'a', '}', 'b', '}'] =
        ['\\', '{', 'a', '}', 'b', '\\', '}'] := by
  constructor <;> cbv

/-- A protected result is put in place alike. -/
theorem Listing.splice_alike (alike : listing.Alike other) (text : Text) (call : Call)
    (result : Text) : listing.splice text call result = other.splice text call result := by
  have ends : Text.endsWithName listing.functionNames result =
      Text.endsWithName other.functionNames result := any_alike alike.functionNames _
  rw [Listing.splice, Listing.splice, ends]

/-- A call is resolved alike: the same function is applied to the same arguments, and its result is
protected alike. -/
theorem Listing.resolve_alike (alike : listing.Alike other) (closed : listing.Closed)
    (scope : Scope) (text : Text) (start : Nat) :
    listing.resolve scope text start = other.resolve scope text start := by
  have protected_ (result : Text) :
      protect listing.functionNames listing.variableNames result =
        protect other.functionNames other.variableNames result :=
    protectAfter_alike alike closed [] result
  simp only [Listing.resolve, protected_, Listing.splice_alike alike]

/-- One more call is resolved alike, whatever has been resolved before. -/
theorem Listing.step_alike (alike : listing.Alike other) (closed : listing.Closed)
    (scope : Scope) (progress : Progress) (start : Nat) :
    listing.step scope progress start = other.step scope progress start := by
  rw [Listing.step, Listing.step, Listing.resolve_alike alike closed]

/-- The calls at any sites are resolved alike, one after the other. -/
theorem Listing.foldlM_step_alike (alike : listing.Alike other) (closed : listing.Closed)
    (scope : Scope) (sites : List Nat) (progress : Progress) :
    sites.foldlM (listing.step scope) progress = sites.foldlM (other.step scope) progress := by
  induction sites generalizing progress with
  | nil => rfl
  | cons site pending inductionHypothesis =>
    rw [List.foldlM_cons, List.foldlM_cons, Listing.step_alike alike closed]
    exact bind_congr inductionHypothesis

/-- A template is rendered alike. -/
theorem Listing.render_alike (alike : listing.Alike other) (closed : listing.Closed)
    (scope : Scope) (template : Text) :
    listing.render scope template = other.render scope template := by
  have sites : callSites listing.functionNames template = callSites other.functionNames template :=
    callSitesFrom_alike alike.functionNames [] 0 template
  rw [Listing.render, Listing.render, sites, Listing.foldlM_step_alike alike closed]

/-- Names may be listed in any order and more than once. The search for calls and protection return
the same for listings of the same names, as long as no name of a variable has a closing brace in it,
and so does every rendering that consults them; with a listing of the names of its scope it is the
rendering of the template.

Proof: at each place the search and protection depend on the set of the names only, and a rendering
consults the names in these two ways and where it asks how a result ends. -/
theorem names_listed_freely (alike : listing.Alike other) (closed : listing.Closed) (text : Text) :
    callSites listing.functionNames text = callSites other.functionNames text ∧
      protect listing.functionNames listing.variableNames text =
        protect other.functionNames other.variableNames text ∧
      (∀ scope, listing.render scope text = other.render scope text) ∧
      ∀ scope : Scope, listing.Alike scope.listing →
        listing.render scope text = render scope text := by
  refine ⟨callSitesFrom_alike alike.functionNames [] 0 text,
    protectAfter_alike alike closed [] text,
    fun scope => Listing.render_alike alike closed scope text, fun scope listed => ?_⟩
  rw [Listing.render_alike listed closed, Listing.render_listing]

/-- The names of a scope, some of them repeated and out of order, although one ends and one begins
another. -/
theorem names_listed_freely_overlapping :
    let scope : Scope :=
      ⟨Dictionary.ofList [(['x'], .string ['{', 'x', 'y', '}']), (['x', 'y'], .bool true)],
        Dictionary.ofList
          [(['a', 't'], fun _ => none), (['t'], fun arguments => some arguments.flatten)]⟩
    let listing : Listing :=
      ⟨[['t'], ['a', 't'], ['t']], [['x', 'y'], ['x'], ['x', 'y']]⟩
    let text : Text :=
      ['a', 't', ':', '{', 'x', 'y', '}', 't', ':', '"', '{', 'x', '}', '"']
    listing.Alike scope.listing ∧ listing.Closed ∧
      callSites listing.functionNames text = [7, 1, 0] ∧
      protect listing.functionNames listing.variableNames text =
        ['a', 't', '\\', ':', '\\', '{', 'x', 'y', '\\', '}', 't', '\\', ':', '\\', '"',
          '\\', '{', 'x', '\\', '}', '\\', '"'] ∧
      listing.render scope text = render scope text := by
  intro scope listing text
  have alike : listing.Alike scope.listing := by decide
  have closed : listing.Closed := by decide
  obtain ⟨sites, inert, _, rendered⟩ := names_listed_freely alike closed text
  refine ⟨alike, closed, ?_, ?_, rendered scope alike⟩
  · rw [sites]
    decide
  · rw [inert]
    cbv

end Phrasebook.Template
