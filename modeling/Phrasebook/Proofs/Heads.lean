import Phrasebook.Proofs.Resolution
import Phrasebook.Proofs.Sites

/-!
# Heads of calls stay where they were found

The sites of a template are found before any call is resolved, and the loop trusts them to
the end. That is sound if the registered names are plain and none is the proper ending of
another. Then two heads in one text never overlap: the later name would have to end the
earlier one, or to begin with the opener that follows its colon. A replacement changes
nothing before its own site, so the heads of all sites still to come stay as they were,
whatever the values of variables and the results of functions are.

Hence the loop finds a known name and its colon at every site, and the functions it applies
are those named at the sites, in their order, up to the first call that fails. No other function
has a part in what comes out: a render depends on the functions only through their names and
through those that are applied.
-/

namespace Phrasebook.Template

/-- Two heads in one text do not overlap: the second begins behind the opener of the first.

Proof: the second name cannot begin at the colon or at the opener of the first head, which
have a meaning. If it began inside the first name, both names would run up to the same
colon, and the second would be a proper ending of the first. -/
theorem width_head_le {before name after before' name' after' : Text} {opener opener' : Char}
    (plain : PlainName name) (plain' : PlainName name') (apart : name' <:+ name → name' = name)
    (opens : IsOpener opener)
    (same : before ++ name ++ ':' :: opener :: after =
      before' ++ name' ++ ':' :: opener' :: after')
    (earlier : Text.width before < Text.width before') :
    Text.width (before ++ name ++ [':', opener]) ≤ Text.width before' := by
  rw [List.append_assoc, List.append_assoc] at same
  obtain ⟨between, rfl, rest⟩ := Text.between_of_width_le same (Nat.le_of_lt earlier)
  have forward : between ≠ [] := by
    rintro rfl
    simp at earlier
  rcases List.append_eq_append_iff.mp rest with ⟨inside, rfl, headed⟩ | ⟨inside, rfl, headed⟩
  · cases inside with
    | nil => exact absurd headed.symm (plain'.append_ne_cons (by decide) _ _)
    | cons colon others =>
      obtain ⟨rfl, behind⟩ := List.cons.inj headed
      cases others with
      | nil => exact absurd behind.symm (plain'.append_ne_cons opens.meaning _ _)
      | cons first remaining =>
        obtain ⟨rfl, _⟩ := List.cons.inj behind
        simp [Text.width_append, Text.width]
  · obtain ⟨rfl, _⟩ := Text.parts_eq_of_mark headed plain'.ordinary.colon_absent
      (fun member => plain.ordinary.colon_absent (List.mem_append_right _ member))
    have whole : name' = between ++ name' := apart (List.suffix_append _ _)
    exact absurd (by simpa using whole) forward

/-- The listed name that begins a call at an offset of a text. -/
def foundName? (names : List Text) (text : Text) (site : Nat) : Option Text :=
  match text.cut? site with
  | some (_, after) => names.find? fun name => startsCall name after
  | none => none

/-- The head at a site names what the search found there: of all plain names, only one stands
before the first colon. -/
theorem foundName?_eq_some {names : List Text} (plain : ∀ name ∈ names, PlainName name)
    {text name : Text} {site : Nat} {opener : Char} (listed : name ∈ names)
    (opens : IsOpener opener) (headed : HeadAt text site name opener) :
    foundName? names text site = some name := by
  obtain ⟨before, after, rfl, rfl⟩ := headed
  have begins : startsCall name (name ++ ':' :: opener :: after) = true :=
    startsCall_eq_true_iff.mpr ⟨(plain name listed).nonempty,
      (plain name listed).ordinary.getLast_ne, opener, after, opens, rfl⟩
  rw [foundName?, List.append_assoc, Text.cut?_append]
  cases found : names.find? fun other => startsCall other (name ++ ':' :: opener :: after) with
  | none => exact absurd begins (List.find?_eq_none.mp found name listed)
  | some other =>
    have begun := List.find?_some found
    obtain ⟨_, _, _, _, _, same⟩ := startsCall_eq_true_iff.mp begun
    have otherPlain : PlainName other := plain other (List.mem_of_find?_eq_some found)
    obtain ⟨rfl, _⟩ := Text.parts_eq_of_mark same (plain name listed).ordinary.colon_absent
      otherPlain.ordinary.colon_absent
    exact found

/-- The text agrees with the template up to the site that was processed last. -/
theorem Reaches.agrees_before_last {scope : Scope} {template : Text} {names : List Text}
    {resolved pending : List Nat} {progress : Progress}
    (reached : Reaches scope template resolved progress)
    (sites : callSites names template = resolved ++ pending) :
    ∀ last ∈ resolved.getLast?, ∃ before after remaining, last = Text.width before ∧
      template = before ++ after ∧ progress.text = before ++ remaining := by
  intro last isLast
  obtain ⟨earlier, rfl⟩ := List.getLast?_eq_some_iff.mp isLast
  have member : last ∈ callSites names template := by simp [sites]
  obtain ⟨before, after, whole, rfl, _⟩ := mem_callSites_iff.mp member
  have descending := callSites_descending names template
  rw [sites, List.pairwise_append, List.pairwise_append] at descending
  have behind : ∀ site ∈ earlier ++ [Text.width before], Text.width before ≤ site := by
    intro site resolvedMember
    rcases List.mem_append.mp resolvedMember with inside | here
    · exact Nat.le_of_lt (descending.1.2.2 site inside _ List.mem_cons_self)
    · exact Nat.le_of_eq (List.mem_singleton.mp here).symm
  obtain ⟨remaining, kept⟩ := reached.keeps_front whole behind
  exact ⟨before, after, remaining, rfl, whole, kept⟩

/-- The head at a site still to come stays, if no other listed name is an ending of its name.

Proof: the heads at the sites that the loop has gone through begin behind this one, so it stands
in the part of the template that the loop keeps. -/
theorem Reaches.keeps_head {scope : Scope} {template : Text}
    (plain : ∀ name ∈ scope.functions.keys, PlainName name) {resolved pending : List Nat}
    {progress : Progress} (reached : Reaches scope template resolved progress)
    (sites : callSites scope.functions.keys template = resolved ++ pending) {site : Nat}
    (ahead : site ∈ pending) {name : Text} {opener : Char} (listed : name ∈ scope.functions.keys)
    (apart : ∀ ending ∈ scope.functions.keys, ending <:+ name → ending = name)
    (opens : IsOpener opener) (headed : HeadAt template site name opener) :
    HeadAt progress.text site name opener := by
  obtain ⟨before, after, whole, measured⟩ := headed
  have descending := callSites_descending scope.functions.keys template
  rw [sites, List.pairwise_append] at descending
  have behind : ∀ other ∈ resolved, Text.width (before ++ name ++ [':', opener]) ≤ other := by
    intro other resolvedMember
    obtain ⟨name', listed', opener', _, before', after', whole', rfl⟩ :=
      head_of_mem_callSites (sites ▸ List.mem_append_left _ resolvedMember)
    exact width_head_le (plain name listed) (plain name' listed') (apart name' listed') opens
      (whole.symm.trans whole') (measured ▸ descending.2.2 _ resolvedMember site ahead)
  have front : template = (before ++ name ++ [':', opener]) ++ after := by simp [whole]
  obtain ⟨remaining, kept⟩ := reached.keeps_front front behind
  exact ⟨before, remaining, by simp [kept], measured⟩

/-- The head at a site still to come is the one that the search found there. -/
theorem Reaches.keeps_heads {scope : Scope} {template : Text}
    (plain : ∀ name ∈ scope.functions.keys, PlainName name)
    (apart : NoneEndsAnother scope.functions.keys) {resolved pending : List Nat}
    {progress : Progress} (reached : Reaches scope template resolved progress)
    (sites : callSites scope.functions.keys template = resolved ++ pending) {site : Nat}
    (ahead : site ∈ pending) :
    ∃ name ∈ scope.functions.keys, ∃ opener, IsOpener opener ∧
      HeadAt template site name opener ∧ HeadAt progress.text site name opener := by
  have member : site ∈ callSites scope.functions.keys template :=
    sites ▸ List.mem_append_right _ ahead
  obtain ⟨name, listed, opener, opens, headed⟩ := head_of_mem_callSites member
  have single : ∀ ending ∈ scope.functions.keys, ending <:+ name → ending = name :=
    fun ending member ends => apart ending member name listed ends
  exact ⟨name, listed, opener, opens, headed,
    reached.keeps_head plain sites ahead listed single opens headed⟩

/-- The name of the function that is applied when the call at a site of a text is resolved. -/
def Scope.applied? (scope : Scope) (text : Text) (site : Nat) : Option Text :=
  match Call.read? text site with
  | some (.ok call) => (scope.functions.find? call.name).map fun _ => call.name
  | _ => none

variable {scope : Scope} {text name : Text} {site : Nat}

/-- The name that is applied is that of the call read at the site, and what its function returns
for the arguments of this call decides the outcome: there is no result, or the protected result is
put in the place of the call. -/
theorem Scope.resolve_of_applied? (applied : scope.applied? text site = some name) :
    ∃ call function, Call.read? text site = some (.ok call) ∧ call.name = name ∧
      scope.functions.find? name = some function ∧
      scope.resolve text site =
        (function (call.arguments.map scope.argumentText)).elim (.error (.noResult name))
          fun result => (scope.splice text call
            (protect scope.functions.keys scope.bindings.keys result)).map some := by
  rw [Scope.applied?] at applied
  split at applied
  · rename_i call read
    obtain ⟨function, found, rfl⟩ := Option.map_eq_some_iff.mp applied
    refine ⟨call, function, read, rfl, found, ?_⟩
    simp only [Scope.resolve, read, found]
    cases function (call.arguments.map scope.argumentText) <;> rfl
  · simp at applied

/-- Functions of the same names resolve a call alike if they agree on the name that is applied. In
particular, where no name is applied the outcome does not depend on the functions. -/
theorem Scope.resolve_congr {functions : Dictionary TextFunction}
    (sameNames : functions.keys = scope.functions.keys)
    (agree : ∀ name ∈ scope.applied? text site,
      functions.find? name = scope.functions.find? name) :
    Scope.resolve ⟨scope.bindings, functions⟩ text site = scope.resolve text site := by
  cases read : Call.read? text site with
  | none => simp [Scope.resolve, read]
  | some reading =>
    cases reading with
    | error fault => simp [Scope.resolve, read]
    | ok call =>
      have same : functions.find? call.name = scope.functions.find? call.name := by
        cases found : scope.functions.find? call.name with
        | none =>
          rw [Dictionary.find?_eq_none_iff] at found ⊢
          rwa [sameNames]
        | some function =>
          rw [← found]
          exact agree call.name (by simp [Scope.applied?, read, found])
      have arguments : Scope.argumentText ⟨scope.bindings, functions⟩ = scope.argumentText := rfl
      simp only [Scope.resolve, read, same, sameNames, arguments, Scope.splice]

/-- Functions that agree on the name applied at a site make the same step there. -/
theorem Progress.step_congr {functions : Dictionary TextFunction} {progress : Progress}
    (sameNames : functions.keys = scope.functions.keys)
    (agree : ∀ name ∈ scope.applied? progress.text site,
      functions.find? name = scope.functions.find? name) :
    progress.step ⟨scope.bindings, functions⟩ site = progress.step scope site := by
  rw [Progress.step, Progress.step, Scope.resolve_congr sameNames agree]

/-- The names of the functions that the loop applies from here on, in order. It ends with the
first call that fails. -/
def appliedNames (scope : Scope) : Progress → List Nat → List Text
  | _, [] => []
  | progress, site :: pending =>
    (scope.applied? progress.text site).toList ++
      match progress.step scope site with
      | .ok next => appliedNames scope next pending
      | .error _ => []

/-- Functions that agree on the names applied from here on make the same run. -/
theorem foldlM_step_congr {functions : Dictionary TextFunction} {progress : Progress}
    {pending : List Nat} (sameNames : functions.keys = scope.functions.keys)
    (agree : ∀ name ∈ appliedNames scope progress pending,
      functions.find? name = scope.functions.find? name) :
    pending.foldlM (Progress.step ⟨scope.bindings, functions⟩) progress =
      pending.foldlM (Progress.step scope) progress := by
  induction pending generalizing progress with
  | nil => rfl
  | cons site pending inductionHypothesis =>
    rw [appliedNames] at agree
    obtain ⟨here, later⟩ := List.forall_mem_append.mp agree
    have first : progress.step ⟨scope.bindings, functions⟩ site = progress.step scope site :=
      Progress.step_congr sameNames fun name applied => here name (by simpa using applied)
    rw [List.foldlM_cons, List.foldlM_cons, first]
    cases stepped : progress.step scope site with
    | error cause => rfl
    | ok next =>
      rw [stepped] at later
      exact inductionHypothesis later

/-- The text that a template stands for depends on the functions only through their names and
through those that are applied. -/
theorem render_congr_of_appliedNames {functions : Dictionary TextFunction} {template : Text}
    (sameNames : functions.keys = scope.functions.keys)
    (agree : ∀ name ∈ appliedNames scope ⟨template, []⟩ (callSites scope.functions.keys template),
      functions.find? name = scope.functions.find? name) :
    render ⟨scope.bindings, functions⟩ template = render scope template := by
  rw [render, render, resolveCalls, resolveCalls, sameNames, foldlM_step_congr sameNames agree]

/-- At the head of a call to a plain name that name is read, and if the reading fails, it is for
an argument that is not closed. -/
theorem read?_of_headAt {text name : Text} {site : Nat} {opener : Char} (plain : PlainName name)
    (headed : HeadAt text site name opener) :
    (∃ call, Call.read? text site = some (.ok call) ∧ call.name = name) ∨
      ∃ (unclosed : Unclosed) (offset : Nat),
        Call.read? text site = some (.error (unclosed.fault name offset)) := by
  obtain ⟨before, after, rfl, rfl⟩ := headed
  simp only [Call.read?, List.append_assoc, Text.cut?_append, Option.map_some, Call.readHere,
    plain.readName?]
  cases complete : readArguments true (opener :: after) with
  | error failure =>
    obtain ⟨unclosed, opening⟩ := failure
    exact Or.inr ⟨unclosed, _, rfl⟩
  | ok reading =>
    obtain ⟨arguments, left⟩ := reading
    exact Or.inl ⟨_, rfl, rfl⟩

/-- At the head of a call to a registered plain name the call is not left alone, and it does not
lack its colon. -/
theorem resolve_of_headAt {scope : Scope} {text name : Text} {site : Nat} {opener : Char}
    (plain : PlainName name) (listed : name ∈ scope.functions.keys)
    (headed : HeadAt text site name opener) :
    scope.resolve text site ≠ .ok none ∧
      ∀ offset, scope.resolve text site ≠ .error (.malformed (.missingSeparator offset)) := by
  obtain ⟨function, known⟩ := Dictionary.mem_keys_iff.mp listed
  obtain ⟨before, after, rfl, rfl⟩ := headed
  have resolution := resolve_resolution scope before (name ++ ':' :: opener :: after)
  rw [← List.append_assoc] at resolution
  generalize scope.resolve _ _ = answer at resolution ⊢
  cases resolution with
  | noSeparator absent => simp [plain.readName?] at absent
  | unclosed _ _ _ unclosed => cases unclosed <;> simp [Unclosed.fault]
  | unknown other written left arguments named complete absent =>
    rw [plain.readName?, Option.some.injEq, Prod.mk.injEq] at named
    obtain ⟨rfl, _⟩ := named
    simp [known] at absent
  | noResult => simp
  | replaced => simp

/-- From any place that the loop reaches, the functions it applies are those named at the sites
to come, up to the first call that fails. -/
theorem Reaches.appliedNames_prefix {scope : Scope} {template : Text}
    (plain : ∀ name ∈ scope.functions.keys, PlainName name)
    (apart : NoneEndsAnother scope.functions.keys) {resolved pending : List Nat}
    {progress : Progress} (reached : Reaches scope template resolved progress)
    (sites : callSites scope.functions.keys template = resolved ++ pending) :
    (appliedNames scope progress pending).map some <+:
        pending.map (foundName? scope.functions.keys template) ∧
      ∀ last, pending.foldlM (Progress.step scope) progress = .ok last →
        (appliedNames scope progress pending).map some =
          pending.map (foundName? scope.functions.keys template) := by
  induction pending generalizing resolved progress with
  | nil => simp [appliedNames]
  | cons site pending inductionHypothesis =>
    obtain ⟨name, listed, opener, opens, inTemplate, inText⟩ :=
      reached.keeps_heads plain apart sites List.mem_cons_self
    have found : foundName? scope.functions.keys template site = some name :=
      foundName?_eq_some plain listed opens inTemplate
    obtain ⟨function, known⟩ := Dictionary.mem_keys_iff.mp listed
    rcases read?_of_headAt (plain name listed) inText with
      ⟨call, read, rfl⟩ | ⟨unclosed, offset, read⟩
    · have applied : scope.applied? progress.text site = some call.name := by
        simp [Scope.applied?, read, known]
      cases stepped : progress.step scope site with
      | error cause =>
        simp [appliedNames, applied, stepped, found, List.foldlM_cons, bind, Except.bind]
      | ok next =>
        have arrived : Reaches scope template (resolved ++ [site]) next :=
          reaches_snoc_iff.mpr ⟨progress, reached, stepped⟩
        have further := inductionHypothesis arrived (by simp [sites])
        simpa [appliedNames, applied, stepped, found, List.foldlM_cons, bind, Except.bind]
          using further
    · have applied : scope.applied? progress.text site = none := by
        simp [Scope.applied?, read]
      have broken : progress.step scope site = .error (.malformed
          ((unclosed.fault name offset).moveTo
            (progress.trace (unclosed.fault name offset).offset))) := by
        simp [Progress.step, Scope.resolve, read]
      simp [appliedNames, applied, broken, List.foldlM_cons, bind, Except.bind]

/-- Neither the values of variables nor the results of functions add a call or take one away.

Wherever the loop arrives, the text agrees with the template up to the site processed last,
and at every site to come there still stands the head that was found there; so no call is left
alone as unknown, and none lacks its colon. The functions applied are those found at the sites,
in their order, up to the first call that fails, and all of them if the render succeeds. -/
theorem calls_undisturbed (scope : Scope) (template : Text)
    (plain : ∀ name ∈ scope.functions.keys, PlainName name)
    (apart : NoneEndsAnother scope.functions.keys) :
    (∀ resolved pending progress,
      callSites scope.functions.keys template = resolved ++ pending →
      Reaches scope template resolved progress →
        (∀ last ∈ resolved.getLast?, ∃ before after remaining, last = Text.width before ∧
          template = before ++ after ∧ progress.text = before ++ remaining) ∧
        ∀ site ∈ pending,
          (∃ name opener, IsOpener opener ∧
            foundName? scope.functions.keys template site = some name ∧
            HeadAt template site name opener ∧ HeadAt progress.text site name opener) ∧
          scope.resolve progress.text site ≠ .ok none ∧
          ∀ offset, scope.resolve progress.text site ≠
            .error (.malformed (.missingSeparator offset))) ∧
      (appliedNames scope ⟨template, []⟩ (callSites scope.functions.keys template)).map some <+:
        (callSites scope.functions.keys template).map
          (foundName? scope.functions.keys template) ∧
      ∀ text, render scope template = .ok text →
        (appliedNames scope ⟨template, []⟩ (callSites scope.functions.keys template)).map some =
          (callSites scope.functions.keys template).map
            (foundName? scope.functions.keys template) := by
  have started : Reaches scope template [] ⟨template, []⟩ := rfl
  obtain ⟨leads, complete⟩ := started.appliedNames_prefix plain apart rfl
  refine ⟨?_, leads, ?_⟩
  · intro resolved pending progress sites reached
    refine ⟨reached.agrees_before_last sites, fun site ahead => ?_⟩
    obtain ⟨name, listed, opener, opens, inTemplate, inText⟩ :=
      reached.keeps_heads plain apart sites ahead
    exact ⟨⟨name, opener, opens, foundName?_eq_some plain listed opens inTemplate, inTemplate,
      inText⟩, resolve_of_headAt (plain name listed) listed inText⟩
  · intro text rendered
    cases ran : resolveCalls scope template with
    | error cause => simp [render, ran, Except.map] at rendered
    | ok last => exact complete last ran

/-- A value and a result that both look like calls leave the two calls of a template in place: the
first of them still stands when the second one is resolved, and both are applied. -/
theorem calls_undisturbed_hostile :
    let scope : Scope :=
      ⟨Dictionary.ofList [(['x'], .string ['g', ':', '"'])],
        Dictionary.ofList [(['f'], fun arguments => arguments.head?),
          (['g'], fun _ => some ['f', ':', '"', 'g', ':'])]⟩
    let template : Text := ['f', ':', '"', 'g', ':', '{', 'x', '}', '"', 'g']
    let progress : Progress :=
      ⟨['f', ':', '"', 'f', '\\', ':', '\\', '"', 'g', '\\', ':', '"', 'g'], [⟨3, 8, 11⟩]⟩
    (∀ name ∈ scope.functions.keys, PlainName name) ∧ NoneEndsAnother scope.functions.keys ∧
      callSites scope.functions.keys template = [3] ++ [0] ∧
      Reaches scope template [3] progress ∧
      (∃ before after remaining, 3 = Text.width before ∧ template = before ++ after ∧
        progress.text = before ++ remaining) ∧
      (∃ name opener, IsOpener opener ∧
        foundName? scope.functions.keys template 0 = some name ∧
        HeadAt template 0 name opener ∧ HeadAt progress.text 0 name opener) ∧
      scope.resolve progress.text 0 ≠ .ok none ∧
      render scope template = .ok ['f', ':', '"', 'g', ':', 'g'] ∧
      (appliedNames scope ⟨template, []⟩ (callSites scope.functions.keys template)).map some =
        [some ['g'], some ['f']] := by
  intro scope template progress
  have plain : ∀ name ∈ scope.functions.keys, PlainName name := by decide
  have apart : NoneEndsAnother scope.functions.keys := by
    unfold NoneEndsAnother
    decide
  have sites : callSites scope.functions.keys template = [3] ++ [0] := by decide
  have reached : Reaches scope template [3] progress := by
    unfold Reaches
    decide +kernel
  have rendered : render scope template = .ok ['f', ':', '"', 'g', ':', 'g'] := by
    decide +kernel
  have found : (callSites scope.functions.keys template).map
      (foundName? scope.functions.keys template) = [some ['g'], some ['f']] := by decide
  obtain ⟨kept, _, whole⟩ := calls_undisturbed scope template plain apart
  obtain ⟨agrees, stands⟩ := kept [3] [0] progress sites reached
  obtain ⟨headed, known, _⟩ := stands 0 List.mem_cons_self
  exact ⟨plain, apart, sites, reached, agrees 3 rfl, headed, known, rendered,
    found ▸ whole _ rendered⟩

end Phrasebook.Template
