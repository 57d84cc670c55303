import Mathlib.Data.List.Induction
import Phrasebook.Proofs.Reading
import Phrasebook.Template.Rendering

/-!
# Resolving one call

What can happen when the call at a place of a text is resolved is listed here once, as a
relation with one constructor for each ending: no colon, an argument that is not closed, an
unknown function, a function without a result, and a replacement. The text is given as the
two parts around the place, so a replacement is seen to keep the first part, to exchange
some characters in front of the second, and to keep the rest of it. A place between two
characters never counts as misplaced.

The loop over the sites of a template is a run of such steps. A property that each step
keeps holds after every run, and a run that fails has reached the call that failed.
-/

namespace Phrasebook.Template

/-- What a protected result puts in the place of a call, and what it leaves of the text that
stands after the call. An escaped colon there is taken along and loses its backslash, unless
the result ends in the name of a function. -/
def Scope.settle (scope : Scope) (result left : Text) : Text × Text :=
  if Trailing.of? left = some .colon ∧ ¬Text.endsWithName scope.functions.keys result then
    (result ++ [':'], left.drop 2)
  else (result, left)

/-- How the call between two parts of a text is resolved. -/
inductive Resolution (scope : Scope) (before after : Text) :
    Except CallError (Option (Text × Splice)) → Prop where
  | noSeparator (absent : readName? (before.getLast? == some '\\') after = none) :
      Resolution scope before after
        (.error (.malformed (.missingSeparator (Text.width before))))
  | unclosed (name taken opening : Text) (unclosed : Unclosed)
      (named : readName? (before.getLast? == some '\\') after = some (name, taken ++ opening))
      (broken : readArguments true (taken ++ opening) = .error (unclosed, opening)) :
      Resolution scope before after
        (.error (.malformed (unclosed.fault name (Text.width (before ++ name ++ ':' :: taken)))))
  | unknown (name written left : Text) (arguments : List Argument)
      (named : readName? (before.getLast? == some '\\') after = some (name, written))
      (complete : readArguments true written = .ok (arguments, left))
      (absent : scope.functions.find? name = none) :
      Resolution scope before after (.ok none)
  | noResult (name written left : Text) (arguments : List Argument) (function : TextFunction)
      (named : readName? (before.getLast? == some '\\') after = some (name, written))
      (complete : readArguments true written = .ok (arguments, left))
      (found : scope.functions.find? name = some function)
      (silent : function (arguments.map scope.argumentText) = none) :
      Resolution scope before after (.error (.noResult name))
  | replaced (name written left result taken replacement rest : Text)
      (arguments : List Argument) (function : TextFunction)
      (named : readName? (before.getLast? == some '\\') after = some (name, written))
      (complete : readArguments true written = .ok (arguments, left))
      (found : scope.functions.find? name = some function)
      (returned : function (arguments.map scope.argumentText) = some result)
      (settled : scope.settle (protect scope.functions.keys scope.bindings.keys result) left =
        (replacement, rest))
      (whole : after = taken ++ rest) :
      Resolution scope before after
        (.ok (some (before ++ replacement ++ rest,
          ⟨Text.width before, Text.width (before ++ taken), Text.width (before ++ replacement)⟩)))

/-- An escaped colon is a backslash and a colon. -/
theorem Trailing.exists_of_colon {text : Text} (colon : Trailing.of? text = some .colon) :
    ∃ rest, text = '\\' :: ':' :: rest := by
  unfold Trailing.of? at colon
  split at colon
  · exact ⟨_, rfl⟩
  · simp at colon
  · simp at colon

/-- A splice at a call keeps what stands before it and after it, and puts the settled result
between. Both cuts succeed, because the call starts and stops between characters. -/
theorem splice_eq_ok (scope : Scope) (before spanned left result : Text) (call : Call)
    (starts : call.start = Text.width before) (stops : call.stop = Text.width (before ++ spanned))
    (trails : call.trailing = Trailing.of? left) :
    ∃ taken replacement rest, scope.settle result left = (replacement, rest) ∧
      spanned ++ left = taken ++ rest ∧
      scope.splice (before ++ (spanned ++ left)) call result =
        .ok (before ++ replacement ++ rest,
          ⟨Text.width before, Text.width (before ++ taken),
            Text.width (before ++ replacement)⟩) := by
  by_cases freed : Trailing.of? left = some .colon ∧ ¬Text.endsWithName scope.functions.keys result
  · obtain ⟨rest, rfl⟩ := Trailing.exists_of_colon freed.1
    have landing : Text.width (before ++ spanned ++ ['\\', ':']) = call.stop + 2 := by
      rw [Text.width_append, ← stops]
      rfl
    have cut : Text.cut? (before ++ (spanned ++ '\\' :: ':' :: rest)) (call.stop + 2) =
        some (before ++ spanned ++ ['\\', ':'], rest) := by
      rw [Text.cut?_eq_some_iff, landing]
      exact ⟨by simp, rfl⟩
    refine ⟨spanned ++ ['\\', ':'], result ++ [':'], rest, ?_, by simp, ?_⟩
    · rw [Scope.settle, if_pos freed]
      rfl
    · simp only [Scope.splice, cutAt, starts, trails, Text.cut?_append, bind, Except.bind, pure,
        Except.pure, if_pos freed, cut]
      rw [← List.append_assoc before spanned, landing, Text.width_append before]
  · have cut : Text.cut? (before ++ (spanned ++ left)) call.stop =
        some (before ++ spanned, left) := by
      rw [Text.cut?_eq_some_iff, stops]
      exact ⟨by simp, rfl⟩
    refine ⟨spanned, result, left, ?_, rfl, ?_⟩
    · rw [Scope.settle, if_neg freed]
    · simp only [Scope.splice, cutAt, starts, trails, Text.cut?_append, bind, Except.bind, pure,
        Except.pure, if_neg freed, cut]
      rw [← stops, Text.width_append before]

/-- Between two parts of a text, a call is read in the second part. -/
theorem read?_append (before after : Text) :
    Call.read? (before ++ after) (Text.width before) =
      some (Call.readHere (Text.width before) (before.getLast? == some '\\') after) := by
  simp [Call.read?, Text.cut?_append]

/-- What is read of a call whose name is known: its arguments, and the place behind them. -/
theorem read?_append_eq_ok_iff {before after name written : Text} {call : Call}
    (named : readName? (before.getLast? == some '\\') after = some (name, written)) :
    Call.read? (before ++ after) (Text.width before) = some (.ok call) ↔
      ∃ taken left, written = taken ++ left ∧
        readArguments true written = .ok (call.arguments, left) ∧
        call = ⟨name, call.arguments, Text.width before,
          Text.width (before ++ name ++ ':' :: taken), Trailing.of? left⟩ := by
  obtain rfl := eq_append_of_readName? named
  rw [read?_append, Call.readHere, named]
  cases complete : readArguments true written with
  | error failure => simp [complete]
  | ok reading =>
    obtain ⟨arguments, left⟩ := reading
    obtain ⟨taken, rfl⟩ := suffix_of_readArguments complete
    have stop : Text.width before +
        (Text.width (name ++ ':' :: (taken ++ left)) - Text.width left) =
          Text.width (before ++ name ++ ':' :: taken) := by
      have offset := Text.width_add_sub_width before (name ++ ':' :: taken) left
      simpa using offset
    simp only [complete, stop, Option.some.injEq, Except.ok.injEq]
    constructor
    · rintro rfl
      exact ⟨taken, left, rfl, rfl, rfl⟩
    · rintro ⟨taken', left', same, parts, whole⟩
      obtain ⟨arguments_eq, rfl⟩ := Prod.mk.inj parts
      obtain rfl : taken = taken' := List.append_cancel_right same
      rw [whole, ← arguments_eq]

/-- A call that was read stands behind some part of the text: its name, a colon, and what was taken
as its arguments. -/
theorem exists_parts_of_read? {text : Text} {start : Nat} {call : Call}
    (read : Call.read? text start = some (.ok call)) :
    ∃ before name taken left, text = before ++ (name ++ ':' :: (taken ++ left)) ∧
      start = Text.width before ∧ readArguments true (taken ++ left) = .ok (call.arguments, left) ∧
      call = ⟨name, call.arguments, Text.width before,
        Text.width (before ++ name ++ ':' :: taken), Trailing.of? left⟩ := by
  obtain ⟨⟨before, after⟩, cut, here⟩ := Option.map_eq_some_iff.mp read
  obtain ⟨rfl, rfl⟩ := Text.eq_append_of_cut? cut
  cases named : readName? (before.getLast? == some '\\') after with
  | none => simp [Call.readHere, named] at here
  | some parts =>
    obtain ⟨name, written⟩ := parts
    obtain ⟨taken, left, rfl, complete, same⟩ := (read?_append_eq_ok_iff named).mp read
    obtain rfl := eq_append_of_readName? named
    exact ⟨before, name, taken, left, rfl, rfl, complete, same⟩

/-- An argument that is not closed makes the call a fault, which is placed at its opening. -/
theorem read?_eq_error {before after name taken opening : Text} {unclosed : Unclosed}
    (named : readName? (before.getLast? == some '\\') after = some (name, taken ++ opening))
    (broken : readArguments true (taken ++ opening) = .error (unclosed, opening)) :
    Call.read? (before ++ after) (Text.width before) =
      some (.error (unclosed.fault name (Text.width (before ++ name ++ ':' :: taken)))) := by
  have headed : after = name ++ ':' :: (taken ++ opening) := eq_append_of_readName? named
  have offset := Text.width_add_sub_width before (name ++ ':' :: taken) opening
  rw [List.append_assoc, List.cons_append, ← headed, ← List.append_assoc] at offset
  simp only [read?_append, Call.readHere, named, broken, offset]

/-- A call that is read completely and has a result is replaced by the settled result. -/
theorem resolve_eq_ok (scope : Scope) {before after name written left result : Text}
    {arguments : List Argument} {function : TextFunction}
    (named : readName? (before.getLast? == some '\\') after = some (name, written))
    (complete : readArguments true written = .ok (arguments, left))
    (found : scope.functions.find? name = some function)
    (returned : function (arguments.map scope.argumentText) = some result) :
    ∃ taken replacement rest,
      scope.settle (protect scope.functions.keys scope.bindings.keys result) left =
        (replacement, rest) ∧
      after = taken ++ rest ∧
      scope.resolve (before ++ after) (Text.width before) =
        .ok (some (before ++ replacement ++ rest,
          ⟨Text.width before, Text.width (before ++ taken),
            Text.width (before ++ replacement)⟩)) := by
  have headed : after = name ++ ':' :: written := eq_append_of_readName? named
  obtain ⟨spanned, rfl⟩ := suffix_of_readArguments complete
  have headed' : after = name ++ ':' :: spanned ++ left := by simp [headed]
  have offset := Text.width_add_sub_width before (name ++ ':' :: spanned) left
  rw [← headed'] at offset
  obtain ⟨taken, replacement, rest, settled, whole, spliced⟩ :=
    splice_eq_ok scope before (name ++ ':' :: spanned) left
      (protect scope.functions.keys scope.bindings.keys result)
      ⟨name, arguments, Text.width before,
        Text.width before + (Text.width after - Text.width left), Trailing.of? left⟩
      rfl offset rfl
  rw [← headed'] at whole spliced
  refine ⟨taken, replacement, rest, settled, whole, ?_⟩
  simp only [Scope.resolve, read?_append, Call.readHere, named, complete, found, returned, spliced]
  rfl

/-- Resolving at the place between two parts of a text ends in one of the listed ways. -/
theorem resolve_resolution (scope : Scope) (before after : Text) :
    Resolution scope before after (scope.resolve (before ++ after) (Text.width before)) := by
  cases named : readName? (before.getLast? == some '\\') after with
  | none =>
    simp only [Scope.resolve, read?_append, Call.readHere, named]
    exact .noSeparator named
  | some parts =>
    obtain ⟨name, written⟩ := parts
    cases complete : readArguments true written with
    | error failure =>
      obtain ⟨unclosed, opening⟩ := failure
      obtain ⟨_, taken, rfl⟩ := failing_of_readArguments complete
      simp only [Scope.resolve, read?_eq_error named complete]
      exact .unclosed name taken opening unclosed named complete
    | ok reading =>
      obtain ⟨arguments, left⟩ := reading
      cases found : scope.functions.find? name with
      | none =>
        simp only [Scope.resolve, read?_append, Call.readHere, named, complete, found]
        exact .unknown name written left arguments named complete found
      | some function =>
        cases returned : function (arguments.map scope.argumentText) with
        | none =>
          simp only [Scope.resolve, read?_append, Call.readHere, named, complete, found, returned]
          exact .noResult name written left arguments function named complete found returned
        | some result =>
          obtain ⟨taken, replacement, rest, settled, whole, resolved⟩ :=
            resolve_eq_ok scope named complete found returned
          rw [resolved]
          exact .replaced name written left result taken replacement rest arguments function named
            complete found returned settled whole

/-- A step that succeeds was made between two characters of the text. It leaves everything as
it was, or it records the replacement of some characters there. -/
theorem step_cases {scope : Scope} {progress next : Progress} {site : Nat}
    (stepped : progress.step scope site = .ok next) :
    ∃ before after, progress.text = before ++ after ∧ site = Text.width before ∧
      (next = progress ∨ ∃ taken replacement rest, after = taken ++ rest ∧
        scope.resolve progress.text site = .ok (some (before ++ replacement ++ rest,
          ⟨site, Text.width (before ++ taken), Text.width (before ++ replacement)⟩)) ∧
        next = ⟨before ++ replacement ++ rest,
          ⟨site, Text.width (before ++ taken), Text.width (before ++ replacement)⟩ ::
            progress.splices⟩) := by
  cases cut : Text.cut? progress.text site with
  | none => simp [Progress.step, Scope.resolve, Call.read?, cut] at stepped
  | some parts =>
    obtain ⟨before, after⟩ := parts
    obtain ⟨whole, rfl⟩ := Text.eq_append_of_cut? cut
    refine ⟨before, after, whole, rfl, ?_⟩
    have resolution := resolve_resolution scope before after
    rw [← whole] at resolution
    rw [Progress.step] at stepped
    generalize answered : scope.resolve progress.text (Text.width before) = answer
      at resolution stepped
    cases resolution with
    | noSeparator => simp at stepped
    | unclosed name taken opening unclosed => cases unclosed <;> simp at stepped
    | unknown => exact Or.inl (Except.ok.inj stepped).symm
    | noResult => simp at stepped
    | replaced name written left result taken replacement rest _ _ _ _ _ _ _ exchanged =>
      exact Or.inr ⟨taken, replacement, rest, exchanged, rfl, (Except.ok.inj stepped).symm⟩

/-- The loop over the sites of a template, begun on the template, has gone through these sites
and arrived at this progress. -/
def Reaches (scope : Scope) (template : Text) (resolved : List Nat) (progress : Progress) : Prop :=
  resolved.foldlM (Progress.step scope) ⟨template, []⟩ = .ok progress

/-- The loop arrives behind one more site by one more step. -/
theorem reaches_snoc_iff {scope : Scope} {template : Text} {resolved : List Nat} {site : Nat}
    {next : Progress} :
    Reaches scope template (resolved ++ [site]) next ↔
      ∃ progress, Reaches scope template resolved progress ∧
        progress.step scope site = .ok next := by
  rw [Reaches, List.foldlM_append]
  cases ran : resolved.foldlM (Progress.step scope) ⟨template, []⟩ with
  | error => simp [Reaches, ran, bind, Except.bind]
  | ok progress =>
    simp only [Reaches, ran, bind, Except.bind, List.foldlM_cons, List.foldlM_nil, pure,
      Except.pure, Except.ok.injEq, exists_eq_left']
    cases progress.step scope site <;> rfl

/-- What every step keeps holds wherever the loop arrives. -/
theorem Reaches.preserved {scope : Scope} {template : Text} {resolved : List Nat}
    {progress : Progress} (reached : Reaches scope template resolved progress)
    (property : Progress → Prop) (start : property ⟨template, []⟩)
    (step : ∀ site ∈ resolved, ∀ current next, property current →
      current.step scope site = .ok next → property next) : property progress := by
  induction resolved using List.reverseRecOn generalizing progress with
  | nil =>
    cases reached
    exact start
  | append_singleton earlier site inductionHypothesis =>
    obtain ⟨current, before, stepped⟩ := reaches_snoc_iff.mp reached
    have kept : property current := inductionHypothesis before fun other member =>
      step other (List.mem_append_left _ member)
    exact step site (by simp) current progress kept stepped

/-- The loop keeps the text that stands before all the sites it has gone through. -/
theorem Reaches.keeps_front {scope : Scope} {template : Text} {resolved : List Nat}
    {progress : Progress} (reached : Reaches scope template resolved progress)
    {before after : Text} (whole : template = before ++ after)
    (behind : ∀ site ∈ resolved, Text.width before ≤ site) :
    ∃ remaining, progress.text = before ++ remaining := by
  refine reached.preserved (fun state => ∃ remaining, state.text = before ++ remaining)
    ⟨after, whole⟩ ?_
  rintro site member current next ⟨remaining, kept⟩ stepped
  obtain ⟨front, back, parts, rfl, same | ⟨taken, replacement, rest, _, _, rfl⟩⟩ :=
    step_cases stepped
  · exact ⟨remaining, same ▸ kept⟩
  · obtain ⟨between, rfl, _⟩ := Text.between_of_width_le (kept.symm.trans parts)
      (behind _ member)
    exact ⟨between ++ replacement ++ rest, by simp⟩

/-- A loop that fails has arrived at the item whose step failed. -/
theorem exists_of_foldlM_error {ε α β : Type} {step : β → α → Except ε β} {items : List α}
    {start : β} {cause : ε} (failed : items.foldlM step start = .error cause) :
    ∃ earlier item later state, items = earlier ++ item :: later ∧
      earlier.foldlM step start = .ok state ∧ step state item = .error cause := by
  induction items generalizing start with
  | nil => simp [pure, Except.pure] at failed
  | cons first rest inductionHypothesis =>
    cases stepped : step start first with
    | error other =>
      simp only [List.foldlM_cons, stepped, bind, Except.bind] at failed
      exact ⟨[], first, rest, start, rfl, rfl, stepped.trans failed⟩
    | ok next =>
      simp only [List.foldlM_cons, stepped, bind, Except.bind] at failed
      obtain ⟨earlier, item, later, state, rfl, reached, broken⟩ := inductionHypothesis failed
      refine ⟨first :: earlier, item, later, state, rfl, ?_, broken⟩
      simpa only [List.foldlM_cons, stepped, bind, Except.bind] using reached

/-- A render that fails has arrived at the site whose call failed. -/
theorem exists_failing_step {scope : Scope} {template : Text} {cause : CallError}
    (failed : render scope template = .error cause) :
    ∃ resolved site pending progress,
      callSites scope.functions.keys template = resolved ++ site :: pending ∧
      Reaches scope template resolved progress ∧ progress.step scope site = .error cause := by
  cases ran : resolveCalls scope template with
  | ok last => simp [render, ran, Except.map] at failed
  | error other =>
    simp only [render, ran, Except.map, Except.error.injEq] at failed
    exact exists_of_foldlM_error (failed ▸ ran)

/-- A render fails at the first site whose call fails, for the same reason. -/
theorem render_eq_error {scope : Scope} {template : Text} {resolved pending : List Nat}
    {site : Nat} {progress : Progress} {cause : CallError}
    (sites : callSites scope.functions.keys template = resolved ++ site :: pending)
    (reached : Reaches scope template resolved progress)
    (failed : progress.step scope site = .error cause) : render scope template = .error cause := by
  have ran : resolved.foldlM (Progress.step scope) ⟨template, []⟩ = .ok progress := reached
  simp only [render, resolveCalls, sites, List.foldlM_append, ran, List.foldlM_cons, failed, bind,
    Except.bind, Except.map]

end Phrasebook.Template
