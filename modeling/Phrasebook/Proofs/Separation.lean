import Mathlib
import Phrasebook.Proofs.Heads
import Phrasebook.Proofs.Locality

/-!
# What stands behind a call

When the turn of a call comes, the calls behind it are resolved already, and what stands behind
it may be a result. A call that has no call inside is then read exactly as in the template,
unless its arguments go on in that text or another escaped delimiter stands there. Its function
is applied to its own arguments, and its own characters are the ones exchanged.

In particular this is so if no call begins directly behind the call or behind a backslash there:
then the text behind it still begins as in the template.
-/

namespace Phrasebook.Template

/-- A settled result takes nothing of the text behind the call, or the colon that is escaped
there. -/
theorem Scope.settle_cases {scope : Scope} {result behind replacement rest : Text}
    (settled : scope.settle result behind = (replacement, rest)) :
    ∃ spent, behind = spent ++ rest ∧
      (spent = [] ∨ spent = ['\\', ':'] ∧ Trailing.of? behind = some .colon) := by
  rw [Scope.settle] at settled
  split at settled
  · rename_i freed
    obtain ⟨_, rfl⟩ := Prod.mk.inj settled
    obtain ⟨others, rfl⟩ := Trailing.exists_of_colon freed.1
    exact ⟨['\\', ':'], rfl, Or.inr ⟨rfl, rfl⟩⟩
  · obtain ⟨_, rfl⟩ := Prod.mk.inj settled
    exact ⟨[], rfl, Or.inl rfl⟩

/-- The next step at the site of a call evaluates it from its own text, which stands there as in
the template: the function is applied to the arguments of the call, and if there is a result, it
is put in the place of the call and of nothing else but an escaped colon behind it. -/
def Progress.EvaluatesAlone (scope : Scope) (template : Text) (progress : Progress) (call : Call) :
    Prop :=
  ∃ before own left behind function,
    template = before ++ own ++ left ∧ progress.text = before ++ own ++ behind ∧
    call.start = Text.width before ∧ call.stop = Text.width (before ++ own) ∧
    scope.functions.find? call.name = some function ∧
    (function (call.arguments.map scope.argumentText) = none →
      progress.step scope call.start = .error (.noResult call.name)) ∧
    ∀ result, function (call.arguments.map scope.argumentText) = some result →
      ∃ replacement spent rest,
        scope.settle (protect scope.functions.keys scope.bindings.keys result) behind =
          (replacement, rest) ∧
        behind = spent ++ rest ∧
        (spent = [] ∨ spent = ['\\', ':'] ∧ call.trailing = some .colon) ∧
        progress.step scope call.start = .ok ⟨before ++ replacement ++ rest,
          ⟨call.start, call.stop + Text.width spent, Text.width (before ++ replacement)⟩ ::
            progress.splices⟩

/-- A call that is read as in the template is evaluated from its own text. -/
theorem evaluatesAlone_of_read? {scope : Scope} {progress : Progress} {name : Text}
    {opener : Char} {template front left behind : Text} {call : Call} (plain : PlainName name)
    (listed : name ∈ scope.functions.keys) (headed : HeadAt template call.start name opener)
    (read : Call.read? template call.start = some (.ok call))
    (whole : template = front ++ left) (stop : call.stop = Text.width front)
    (whole' : progress.text = front ++ behind)
    (again : Call.read? progress.text call.start = some (.ok call)) :
    progress.EvaluatesAlone scope template call := by
  obtain ⟨before, after, rfl, begins⟩ := headed
  rw [begins] at read
  obtain ⟨taken, rfl, split, _, named, _⟩ := parts_of_read? plain read whole stop
  have shown : progress.text = before ++ name ++ ':' :: (taken ++ behind) := by simp [whole']
  have read' := again
  rw [shown, begins] at read'
  obtain ⟨taken', same, _, complete, _, trails⟩ :=
    parts_of_read? plain read' (shown.symm.trans whole') stop
  obtain rfl : taken = taken' := by simpa using same
  obtain ⟨function, found⟩ := Dictionary.mem_keys_iff.mp listed
  rw [← named] at found
  refine ⟨before, name ++ ':' :: taken, left, behind, function, by simp [split], by simp [shown],
    begins, by simpa using stop, found, ?_, ?_⟩
  · intro silent
    simp [Progress.step, Scope.resolve, again, found, silent]
  · intro result returned
    obtain ⟨exchanged, replacement, rest, settled, parts, resolved⟩ :=
      resolve_eq_ok scope (plain.readName? (before.getLast? == some '\\') (taken ++ behind))
        complete (named ▸ found) returned
    obtain ⟨spent, rfl, kind⟩ := Scope.settle_cases settled
    obtain rfl : exchanged = name ++ ':' :: taken ++ spent := by
      have whole : exchanged ++ rest = name ++ ':' :: taken ++ spent ++ rest := by
        rw [← parts]
        simp
      exact List.append_cancel_right whole
    have resolved' : scope.resolve progress.text call.start = .ok (some
        (before ++ replacement ++ rest, ⟨call.start, call.stop + Text.width spent,
          Text.width (before ++ replacement)⟩)) := by
      have behind' : Text.width (before ++ (name ++ ':' :: taken ++ spent)) =
          call.stop + Text.width spent := by
        rw [stop, ← Text.width_append]
        simp
      rw [shown, begins, List.append_assoc, resolved, behind']
    refine ⟨replacement, spent, rest, settled, rfl, by rwa [trails], ?_⟩
    simp only [Progress.step, resolved']

/-- Another call begins inside a call, directly behind it, or behind a backslash there. -/
def Call.TouchedBy (template : Text) (call : Call) (other : Nat) : Prop :=
  call.start < other ∧
    (other ≤ call.stop ∨ Text.charAt? template call.stop = some '\\' ∧ other = call.stop + 1)

/-- Sites behind a place of a text are behind the character that begins there. -/
theorem eq_nil_or_width_append_le {names : List Text} {text front left : Text} {sites : List Nat}
    (found : ∀ site ∈ sites, site ∈ callSites names text) (whole : text = front ++ left)
    (beyond : ∀ site ∈ sites, Text.width front < site) :
    sites = [] ∨ ∃ first rest, left = first :: rest ∧
      ∀ site ∈ sites, Text.width (front ++ [first]) ≤ site := by
  have within (site : Nat) (member : site ∈ sites) : ∃ between after, between ≠ [] ∧
      left = between ++ after ∧ site = Text.width (front ++ between) := by
    obtain ⟨before, after, whole', rfl, _⟩ := mem_callSites_iff.mp (found site member)
    have forward := beyond _ member
    obtain ⟨between, rfl, parts⟩ :=
      Text.between_of_width_le (whole.symm.trans whole') (Nat.le_of_lt forward)
    refine ⟨between, after, ?_, parts, rfl⟩
    rintro rfl
    simp at forward
  cases left with
  | nil =>
    refine Or.inl (List.eq_nil_iff_forall_not_mem.mpr fun site member => ?_)
    obtain ⟨between, after, nonempty, parts, _⟩ := within site member
    simp [nonempty] at parts
  | cons first rest =>
    refine Or.inr ⟨first, rest, rfl, fun site member => ?_⟩
    obtain ⟨between, after, nonempty, parts, rfl⟩ := within site member
    obtain ⟨_, others, rfl⟩ := List.exists_cons_of_ne_nil nonempty
    obtain ⟨rfl, _⟩ := List.cons.inj parts
    simp only [Text.width_append, Text.width]
    omega

/-- Where the loop arrives, a place still begins as in the template if no site was gone through
there, nor, if a backslash stands there, directly behind it. -/
theorem Reaches.begins_alike {scope : Scope} {names : List Text} {template front left : Text}
    {resolved : List Nat} {progress : Progress} (reached : Reaches scope template resolved progress)
    (found : ∀ site ∈ resolved, site ∈ callSites names template)
    (whole : template = front ++ left) (beyond : ∀ site ∈ resolved, Text.width front < site)
    (apart : left.head? = some '\\' → ∀ site ∈ resolved, site ≠ Text.width front + 1) :
    ∃ behind, progress.text = front ++ behind ∧ behind.head? = left.head? ∧
      Trailing.of? behind = Trailing.of? left := by
  rcases eq_nil_or_width_append_le found whole beyond with rfl | ⟨first, rest, rfl, behind⟩
  · cases reached
    exact ⟨left, whole, rfl, rfl⟩
  · have whole' : template = front ++ [first] ++ rest := by simp [whole]
    -- An escape is two characters long, so behind a backslash the next one counts, too.
    by_cases backslash : first = '\\'
    · have further : ∀ site ∈ resolved, Text.width (front ++ [first]) < site := by
        intro site member
        have reachesOver := behind site member
        have different := apart (by rw [backslash, List.head?_cons]) site member
        have single : Text.width (front ++ [first]) = Text.width front + 1 := by
          rw [backslash, Text.width_append]
          rfl
        omega
      rcases eq_nil_or_width_append_le found whole' further with rfl | ⟨second, others, rfl, past⟩
      · cases reached
        exact ⟨first :: rest, whole, rfl, rfl⟩
      · obtain ⟨remaining, kept⟩ := reached.keeps_front
          (whole'.trans (List.append_cons _ _ _)) past
        exact ⟨first :: second :: remaining, by simpa using kept, rfl,
          Trailing.of?_congr fun _ => rfl⟩
    · obtain ⟨remaining, kept⟩ := reached.keeps_front whole' behind
      exact ⟨first :: remaining, by simpa using kept, rfl,
        Trailing.of?_congr fun impossible => absurd impossible backslash⟩

variable {scope : Scope} {template : Text} {resolved pending : List Nat} {site : Nat}
  {progress : Progress} {call : Call}

/-- A call that no other one touches is read as in the template when its turn comes. -/
theorem Reaches.reads_again (plain : ∀ name ∈ scope.functions.keys, PlainName name)
    (sites : callSites scope.functions.keys template = resolved ++ site :: pending)
    (reached : Reaches scope template resolved progress)
    (read : Call.read? template site = some (.ok call))
    (untouched : ∀ other ∈ callSites scope.functions.keys template,
      ¬call.TouchedBy template other) :
    Call.read? progress.text site = some (.ok call) := by
  obtain rfl : call.start = site := start_of_read? read
  have ordered := mem_resolved_iff sites
  have found : call.start ∈ callSites scope.functions.keys template := by simp [sites]
  obtain ⟨name, listed, opener, opens, headed⟩ := head_of_mem_callSites found
  obtain ⟨front, left, whole, stop⟩ := exists_front_of_read? (plain name listed) headed read
  have beyond : ∀ other ∈ resolved, Text.width front < other := by
    intro other member
    obtain ⟨site, behind⟩ := (ordered other).mp member
    have apart : ¬other ≤ call.stop := fun within => untouched other site ⟨behind, Or.inl within⟩
    omega
  have apart : left.head? = some '\\' → ∀ other ∈ resolved, other ≠ Text.width front + 1 := by
    intro backslash other member next
    obtain ⟨site, behind⟩ := (ordered other).mp member
    have here : Text.charAt? template call.stop = some '\\' := by
      simpa [Text.charAt?, whole, stop, Text.cut?_append] using backslash
    exact untouched other site ⟨behind, Or.inr ⟨here, stop ▸ next⟩⟩
  obtain ⟨behind, whole', head, trails⟩ := reached.begins_alike
    (fun other member => ((ordered other).mp member).1) whole beyond apart
  obtain ⟨ended, trailing⟩ :=
    (read?_iff_of_agree (plain name listed) opens headed read whole stop whole).mp read
  refine (read?_iff_of_agree (plain name listed) opens headed read whole stop whole').mpr ⟨?_, ?_⟩
  · exact (continues_congr head).not.mpr ended
  · exact trails.trans trailing

/-- Whether the call at a site is read as in the template, if no call begins inside it: exactly
if the call does not go on into the text behind it, and the same escaped delimiter, or none,
follows. The call is then evaluated from its own text. That no call touches it is sufficient.

Proof: the loop has changed nothing before the end of the call, and a reader of arguments is
local: what it takes depends on what it leaves only as far as that goes on. -/
theorem call_evaluated_alone (plain : ∀ name ∈ scope.functions.keys, PlainName name)
    (sites : callSites scope.functions.keys template = resolved ++ site :: pending)
    (reached : Reaches scope template resolved progress)
    (read : Call.read? template site = some (.ok call))
    (between : ∀ other ∈ callSites scope.functions.keys template,
      ¬(site < other ∧ other < call.stop)) :
    ∃ front left behind, template = front ++ left ∧ progress.text = front ++ behind ∧
      call.stop = Text.width front ∧
      (Call.read? progress.text site = some (.ok call) ↔
        ¬Continues front behind ∧ Trailing.of? behind = call.trailing) ∧
      (Call.read? progress.text site = some (.ok call) →
        progress.EvaluatesAlone scope template call) ∧
      ((∀ other ∈ callSites scope.functions.keys template, ¬call.TouchedBy template other) →
        Call.read? progress.text site = some (.ok call)) := by
  obtain rfl : call.start = site := start_of_read? read
  have ordered := mem_resolved_iff sites
  have found : call.start ∈ callSites scope.functions.keys template := by simp [sites]
  obtain ⟨name, listed, opener, opens, headed⟩ := head_of_mem_callSites found
  obtain ⟨front, left, whole, stop⟩ := exists_front_of_read? (plain name listed) headed read
  have behindAll : ∀ other ∈ resolved, Text.width front ≤ other := by
    intro other member
    obtain ⟨site, beyond⟩ := (ordered other).mp member
    have outside := between other site
    omega
  obtain ⟨behind, whole'⟩ := reached.keeps_front whole behindAll
  have alike := read?_iff_of_agree (plain name listed) opens headed read whole stop whole'
  refine ⟨front, left, behind, whole, whole', stop, alike, ?_, ?_⟩
  · exact evaluatesAlone_of_read? (plain name listed) listed headed read whole stop whole'
  · exact reached.reads_again plain sites read

/-- Neither an escaped colon behind a call nor a colon that the next call returns makes the call
go on. -/
theorem call_evaluated_alone_separated :
    let scope : Scope :=
      ⟨Dictionary.ofList [(['x'], .string ['v'])],
        Dictionary.ofList [(['f'], fun arguments => some (Nat.toDigits 10 arguments.length)),
          (['g'], fun _ => some [':', '{', 'x', '}'])]⟩
    let template : Text := ['f', ':', '{', 'x', '}', '\\', ':', 'g', ':', '{', 'x', '}']
    let progress : Progress :=
      ⟨['f', ':', '{', 'x', '}', '\\', ':', ':', '\\', '{', 'x', '\\', '}'], [⟨7, 12, 13⟩]⟩
    let call : Call := ⟨['f'], [.reference ['x']], 0, 5, some .colon⟩
    (∀ name ∈ scope.functions.keys, PlainName name) ∧
      callSites scope.functions.keys template = [7] ++ 0 :: [] ∧
      Reaches scope template [7] progress ∧ Call.read? template 0 = some (.ok call) ∧
      (∀ other ∈ callSites scope.functions.keys template, ¬(0 < other ∧ other < call.stop)) ∧
      progress.EvaluatesAlone scope template call := by
  intro scope template progress call
  have plain : ∀ name ∈ scope.functions.keys, PlainName name := by decide
  have sites : callSites scope.functions.keys template = [7] ++ 0 :: [] := by decide
  have reached : Reaches scope template [7] progress := by
    unfold Reaches
    cbv
  have read : Call.read? template 0 = some (.ok call) := by cbv
  have between : ∀ other ∈ callSites scope.functions.keys template,
      ¬(0 < other ∧ other < call.stop) := by decide
  have untouched : ∀ other ∈ callSites scope.functions.keys template,
      ¬call.TouchedBy template other := by
    unfold Call.TouchedBy
    decide
  obtain ⟨_, _, _, _, _, _, _, alone, again⟩ :=
    call_evaluated_alone plain sites reached read between
  exact ⟨plain, sites, reached, read, between, alone (again untouched)⟩

/-- A call that begins directly behind another one, and leaves nothing but the colon that was
escaped behind it, lets the other one go on with what follows, although no call begins inside. -/
theorem not_evaluatesAlone_adjacent :
    let scope : Scope :=
      ⟨Dictionary.ofList [(['x'], .string ['v'])],
        Dictionary.ofList [(['f'], fun arguments => some (Nat.toDigits 10 arguments.length)),
          (['g'], fun _ => some [])]⟩
    let template : Text :=
      ['f', ':', '{', 'x', '}', 'g', ':', '{', 'x', '}', '\\', ':', '{', 'z', '}']
    let progress : Progress := ⟨['f', ':', '{', 'x', '}', ':', '{', 'z', '}'], [⟨5, 12, 6⟩]⟩
    let call : Call := ⟨['f'], [.reference ['x']], 0, 5, none⟩
    (∀ name ∈ scope.functions.keys, PlainName name) ∧ NoneEndsAnother scope.functions.keys ∧
      callSites scope.functions.keys template = [5] ++ 0 :: [] ∧
      Reaches scope template [5] progress ∧ Call.read? template 0 = some (.ok call) ∧
      (∀ other ∈ callSites scope.functions.keys template, ¬(0 < other ∧ other < call.stop)) ∧
      ¬progress.EvaluatesAlone scope template call := by
  intro scope template progress call
  have reached : Reaches scope template [5] progress := by
    unfold Reaches
    cbv
  have read : Call.read? template 0 = some (.ok call) := by cbv
  have stepped : progress.step scope 0 =
      .ok ⟨['2'], [⟨0, 9, 1⟩, ⟨5, 12, 6⟩]⟩ := by cbv
  have apart : NoneEndsAnother scope.functions.keys := by
    unfold NoneEndsAnother
    decide
  refine ⟨by decide, apart, by decide, reached, read, by decide, ?_⟩
  rintro ⟨_, _, _, _, function, _, _, _, _, found, silent, evaluated⟩
  cases returned : function (call.arguments.map scope.argumentText) with
  | none =>
    have failed : progress.step scope 0 = .error (.noResult ['f']) := silent returned
    simp [stepped] at failed
  | some result =>
    obtain ⟨_, spent, _, _, _, kind, exchanged⟩ := evaluated result returned
    have nothing : spent = [] := by
      refine kind.resolve_right ?_
      rintro ⟨_, trails⟩
      simp [call] at trails
    have same := stepped.symm.trans exchanged
    simp [nothing, call, Text.width] at same

end Phrasebook.Template
