import Phrasebook.Function
import Phrasebook.Proofs.Dictionaries
import Phrasebook.Proofs.Heads
import Phrasebook.Proofs.Provenance

/-!
# Names that end in one another

If one registered name is the ending of another, a call of the longer name is found twice, at the
longer name and inside it. The inner site is resolved first, and takes the colon along that both
calls share, so the outer call may be left without one. This is the only way in which a render
can miss a separator, and some registry with these names always does miss one: its functions
return nothing, and the template is a call of the longer name.
-/

namespace Phrasebook.Template

/-- A separator that a render misses belongs to a call whose name ends in another registered
name. -/
theorem exists_ending_of_missingSeparator {scope : Scope} {template : Text} {offset : Nat}
    (plain : ∀ name ∈ scope.functions.keys, PlainName name)
    (failed : render scope template = .error (.malformed (.missingSeparator offset))) :
    ∃ name ∈ scope.functions.keys, ∃ opener, IsOpener opener ∧
      HeadAt template offset name opener ∧
      ∃ ending ∈ scope.functions.keys, ending <:+ name ∧ ending ≠ name := by
  obtain ⟨resolved, site, pending, progress, sites, reached, stepped⟩ := exists_failing_step failed
  obtain ⟨met, read, moved, kind⟩ := step_malformed_cases stepped
  have lacking : met = .missingSeparator site := by
    refine kind.resolve_right ?_
    rintro ⟨function, unclosed, before, opening, _, rfl, _, _⟩
    cases unclosed <;> simp [Unclosed.fault, Fault.moveTo] at moved
  subst lacking
  have below : ∀ other ∈ resolved, site < other :=
    fun other member => ((mem_resolved_iff sites other).mp member).2
  obtain ⟨marks, run⟩ := reached.exists_provenance
  obtain rfl : offset = site := by
    rw [Fault.offset, run.trace_site below] at moved
    exact Fault.missingSeparator.inj moved
  have member : offset ∈ callSites scope.functions.keys template := by simp [sites]
  obtain ⟨name, listed, opener, opens, headed⟩ := head_of_mem_callSites member
  refine ⟨name, listed, opener, opens, headed, Decidable.byContradiction fun alone => ?_⟩
  have apart : ∀ ending ∈ scope.functions.keys, ending <:+ name → ending = name := by
    intro ending member ends
    by_contra different
    exact alone ⟨ending, member, ends, different⟩
  have kept : HeadAt progress.text offset name opener :=
    reached.keeps_head plain sites List.mem_cons_self listed apart opens headed
  have complete := (resolve_of_headAt (plain name listed) listed kept).2 offset
  exact complete (by simp [Scope.resolve, read])

/-- The template that calls a name with an empty argument. -/
def emptyCall (name : Text) : Text :=
  name ++ [':', '"', '"']

/-- The sites of such a template are the places in the name from which a listed name ends it. -/
theorem mem_callSites_emptyCall_iff {names : List Text} (plain : ∀ name ∈ names, PlainName name)
    {name : Text} (listed : name ∈ names) (site : Nat) :
    site ∈ callSites names (emptyCall name) ↔
      ∃ before, ∃ ending ∈ names, name = before ++ ending ∧ site = Text.width before := by
  rw [mem_callSites_iff]
  constructor
  · rintro ⟨before, after, whole, measured, ending, member, begins⟩
    obtain ⟨_, _, opener, rest, _, rfl⟩ := startsCall_eq_true_iff.mp begins
    have shared : name ++ [':', '"', '"'] = (before ++ ending) ++ ':' :: opener :: rest := by
      rw [List.append_assoc]
      exact whole
    rcases append_cons_cases shared with ⟨between, rfl, _⟩ | ⟨between, parts, closing⟩
    · exact absurd (by simp) (plain _ listed).ordinary.colon_absent
    · cases between with
      | nil => exact ⟨before, ending, member, by simpa using parts.symm, measured⟩
      | cons colon others =>
        have inside : ':' ∈ ['"', '"'] := by
          rw [(List.cons.inj closing).2]
          simp
        exact absurd inside (by decide)
  · rintro ⟨before, ending, member, rfl, measured⟩
    refine ⟨before, ending ++ [':', '"', '"'], by simp [emptyCall], measured, ending, member, ?_⟩
    exact startsCall_eq_true_iff.mpr ⟨(plain ending member).nonempty,
      (plain ending member).ordinary.getLast_ne, '"', ['"'], Or.inl rfl, rfl⟩

/-- The functions of these names, all of which return the empty text. -/
def silent (names : List Text) : Dictionary TextFunction :=
  Dictionary.tabulate names fun _ _ => some []

/-- Where a listed name begins an empty call, a silent function takes the call away. -/
theorem step_silent {names : List Text} (before : Text) {ending : Text} (plain : PlainName ending)
    (listed : ending ∈ names) :
    ∃ splices, Progress.step ⟨.empty, silent names⟩ ⟨before ++ emptyCall ending, []⟩
      (Text.width before) = .ok ⟨before, splices⟩ := by
  have argument : readArgument ['"', '"'] = .ok (some (.quoted [], [])) := by
    simp [readArgument, readPieces_quote]
  have complete : readArguments true ['"', '"'] = .ok ([.quoted []], []) :=
    readArguments_last argument (by simp)
  have found : (silent names).find? ending = some fun _ => some [] := by
    rw [silent, Dictionary.find?_tabulate, if_pos listed]
  obtain ⟨taken, replacement, rest, settled, _, resolved⟩ :=
    resolve_eq_ok ⟨.empty, silent names⟩ (plain.readName? (before.getLast? == some '\\') _)
      complete found rfl
  have emptied : Scope.settle ⟨.empty, silent names⟩
      (protect (silent names).keys (Dictionary.empty : Dictionary Value).keys []) [] =
        ([], []) := by simp [Scope.settle, Trailing.of?, protect, protectAfter]
  obtain ⟨rfl, rfl⟩ := Prod.mk.inj (emptied.symm.trans settled)
  simp only [Progress.step, emptyCall, resolved, List.append_nil]
  exact ⟨_, rfl⟩

/-- No separator is found in a text without colons. -/
theorem step_of_colon_absent (scope : Scope) (before : Text) {after : Text}
    (absent : ':' ∉ after) (splices : List Splice) :
    ∃ offset, Progress.step scope ⟨before ++ after, splices⟩ (Text.width before) =
      .error (.malformed (.missingSeparator offset)) := by
  have unnamed : readName? (before.getLast? == some '\\') after = none := by
    refine Option.eq_none_iff_forall_ne_some.mpr fun parts named => absent ?_
    rw [eq_append_of_readName? named]
    simp
  simp only [Progress.step, Scope.resolve, read?_append, Call.readHere, unnamed, Fault.moveTo]
  exact ⟨_, rfl⟩

/-- If one listed name ends in another, silent functions leave an empty call of it without its
separator. -/
theorem exists_missingSeparator {names : List Text} (plain : ∀ name ∈ names, PlainName name)
    {name ending : Text} (member : ending ∈ names) (listed : name ∈ names) (ends : ending <:+ name)
    (different : ending ≠ name) :
    ∃ offset, render ⟨.empty, silent names⟩ (emptyCall name) =
      .error (.malformed (.missingSeparator offset)) := by
  have same (other : Text) : other ∈ (silent names).keys ↔ other ∈ names :=
    Dictionary.mem_keys_tabulate
  have plain' : ∀ other ∈ (silent names).keys, PlainName other :=
    fun other known => plain other ((same other).mp known)
  have sites_iff := mem_callSites_emptyCall_iff plain' ((same name).mpr listed)
  obtain ⟨lead, rfl⟩ := ends
  have outer : 0 ∈ callSites (silent names).keys (emptyCall (lead ++ ending)) :=
    (sites_iff 0).mpr ⟨[], _, (same _).mpr listed, rfl, rfl⟩
  have inner : Text.width lead ∈ callSites (silent names).keys (emptyCall (lead ++ ending)) :=
    (sites_iff _).mpr ⟨lead, ending, (same _).mpr member, rfl, rfl⟩
  -- Of the sites only the first two matter, which need not be the two that are known.
  cases sites : callSites (silent names).keys (emptyCall (lead ++ ending)) with
  | nil => simp [sites] at outer
  | cons first remaining =>
    cases remaining with
    | nil =>
      rw [sites, List.mem_singleton] at outer inner
      have nothing : lead = [] := Text.width_eq_zero_iff.mp (inner.trans outer.symm)
      exact absurd (by simp [nothing]) different
    | cons second others =>
      have ordered := callSites_descending (silent names).keys (emptyCall (lead ++ ending))
      rw [sites, List.pairwise_cons] at ordered
      have later : second < first := ordered.1 second List.mem_cons_self
      obtain ⟨before, called, known, parts, rfl⟩ := (sites_iff first).mp (by simp [sites])
      obtain ⟨before', _, _, parts', rfl⟩ := (sites_iff second).mp (by simp [sites])
      obtain ⟨between, rfl, _⟩ :=
        Text.between_of_width_le (parts'.symm.trans parts) (Nat.le_of_lt later)
      have whole : emptyCall (lead ++ ending) = before' ++ between ++ emptyCall called := by
        rw [parts, emptyCall, emptyCall, List.append_assoc]
      obtain ⟨splices, stepped⟩ := step_silent (before' ++ between) (plain' called known)
        ((same called).mp known)
      have reached : Reaches ⟨.empty, silent names⟩ (emptyCall (lead ++ ending))
          ([] ++ [Text.width (before' ++ between)]) ⟨before' ++ between, splices⟩ := by
        rw [whole]
        exact reaches_snoc_iff.mpr ⟨_, rfl, stepped⟩
      have absent : ':' ∉ between := by
        have ordinary := (plain _ listed).ordinary
        rw [parts] at ordinary
        exact (ordinary_append.mp (ordinary_append.mp ordinary).1).2.colon_absent
      obtain ⟨offset, failed⟩ := step_of_colon_absent ⟨.empty, silent names⟩ before' absent splices
      exact ⟨offset, render_eq_error sites reached failed⟩

/-- A registry misses no separator, whatever the templates, the values of the variables and the
results of the functions, exactly if none of its names is the ending of another.

Proof: a head at which no other name ends stays as it was found. Conversely, let one name end in
another, and let all functions return the empty text. Of the call of the longer name, the first
site that is resolved takes everything along but what stands before it, and at the next site no
colon is left. -/
theorem separators_kept_iff (names : List Text) (plain : ∀ name ∈ names, PlainName name) :
    (∀ scope : Scope, (∀ name, name ∈ scope.functions.keys ↔ name ∈ names) →
      ∀ template offset,
        render scope template ≠ .error (.malformed (.missingSeparator offset))) ↔
      NoneEndsAnother names := by
  constructor
  · intro kept ending member name listed ends
    by_contra different
    have same (other : Text) : other ∈ (silent names).keys ↔ other ∈ names :=
      Dictionary.mem_keys_tabulate
    obtain ⟨offset, missed⟩ := exists_missingSeparator plain member listed ends different
    exact kept ⟨.empty, silent names⟩ same (emptyCall name) offset missed
  · intro apart scope same template offset failed
    have plain' : ∀ name ∈ scope.functions.keys, PlainName name :=
      fun name member => plain name ((same name).mp member)
    obtain ⟨name, listed, _, _, _, ending, member, ends, different⟩ :=
      exists_ending_of_missingSeparator plain' failed
    exact different (apart ending ((same ending).mp member) name ((same name).mp listed) ends)

/-- With the functions that are always at hand, no separator is ever missed. -/
theorem separators_kept_builtins :
    (∀ name ∈ Registry.builtins.keys, PlainName name) ∧
      ∀ bindings template offset, render ⟨bindings, Registry.builtins⟩ template ≠
        .error (.malformed (.missingSeparator offset)) := by
  have plain : ∀ name ∈ Registry.builtins.keys, PlainName name := by decide
  have apart : NoneEndsAnother Registry.builtins.keys := by
    unfold NoneEndsAnother
    decide
  exact ⟨plain, fun bindings template offset => (separators_kept_iff Registry.builtins.keys
    plain).mpr apart ⟨bindings, Registry.builtins⟩ (fun _ => Iff.rfl) template offset⟩

/-- Plain names alone do not keep the separators: a call of one function inside the name of
another takes the colon along. -/
theorem missingSeparator_overlapping :
    let scope : Scope :=
      ⟨Dictionary.ofList [(['x'], .string ['v'])],
        Dictionary.ofList [(['a', 'b'], fun arguments => some arguments.flatten),
          (['b'], fun _ => some ['r'])]⟩
    (∀ name ∈ scope.functions.keys, PlainName name) ∧
      render scope ['a', 'b', ':', '{', 'x', '}'] =
        .error (.malformed (.missingSeparator 0)) := by
  intro scope
  have missed : render scope ['a', 'b', ':', '{', 'x', '}'] =
      .error (.malformed (.missingSeparator 0)) := by
    cbv
  exact ⟨by decide, missed⟩

end Phrasebook.Template
