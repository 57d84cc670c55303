import Phrasebook.Proofs.Mildness
import Phrasebook.Proofs.Provenance
import Phrasebook.Proofs.Separation

/-!
# What a check leaves open

A template is checked by rendering it without any variables. Values can still break a template
that passes: a call that encloses another one, or has one directly behind it, is read together
with what that call has left there, and this depends on the values.

Nothing else can break it. A call that no other one touches is read with any variables as it is
read in the template, and so as in the check. And in a written tree the calls inside a call do
no harm either, as long as the values are mild.
-/

namespace Phrasebook.Template

/-- The call at a site is touched by another one, or there is no telling where it ends. -/
def Touches (template : Text) (site other : Nat) : Prop :=
  site < other ∧ ∀ call, Call.read? template site = some (.ok call) → call.TouchedBy template other

/-- A fault is not reported before the site of the call that met it. -/
theorem site_le_of_step_malformed {scope : Scope} {template : Text} {resolved pending : List Nat}
    {site : Nat} {progress : Progress} {fault : Fault}
    (sites : callSites scope.functions.keys template = resolved ++ site :: pending)
    (reached : Reaches scope template resolved progress)
    (failed : progress.step scope site = .error (.malformed fault)) : site ≤ fault.offset := by
  obtain ⟨marks, run⟩ := reached.exists_provenance
  obtain ⟨met, _, rfl, kind⟩ := step_malformed_cases failed
  have behind : site ≤ met.offset := by
    rcases kind with rfl | ⟨function, unclosed, before, _, _, rfl, _, within⟩
    · exact Nat.le_refl _
    · rw [Unclosed.offset_fault]
      exact within
  rw [Fault.offset_moveTo]
  exact run.site_le_trace (fun other member => ((mem_resolved_iff sites other).mp member).2) behind

/-- A fault that a check has missed is met at a call that another one touches.

Proof: if no other call touches it, its reading is that of the template. So it is at fault there,
and no call stands behind it: it is the first one whose turn comes, and the check has tried it
on the same text. -/
theorem exists_touched_of_fault {functions : Dictionary TextFunction}
    {bindings bindings' : Dictionary Value} {template shown : Text} {fault : Fault}
    (plain : ∀ name ∈ functions.keys, PlainName name)
    (checked : render ⟨bindings', functions⟩ template = .ok shown)
    (failed : render ⟨bindings, functions⟩ template = .error (.malformed fault)) :
    ∃ site ∈ callSites functions.keys template, site ≤ fault.offset ∧
      ∃ other ∈ callSites functions.keys template, Touches template site other := by
  obtain ⟨resolved, site, pending, progress, sites, reached, stepped⟩ := exists_failing_step failed
  have found : site ∈ callSites functions.keys template := by
    rw [sites]
    exact List.mem_append_right _ List.mem_cons_self
  refine ⟨site, found, site_le_of_step_malformed sites reached stepped, ?_⟩
  obtain ⟨met, broken, _, _⟩ := step_malformed_cases stepped
  obtain ⟨name, listed, opener, _, headed⟩ := head_of_mem_callSites found
  by_contra untouched
  rcases read?_of_headAt (plain name listed) headed with
    ⟨call, read, _⟩ | ⟨unclosed, offset, read⟩
  · have begins : call.start = site := start_of_read? read
    have alone : ∀ other ∈ callSites functions.keys template, ¬call.TouchedBy template other := by
      intro other member touched
      refine untouched ⟨other, member, begins ▸ touched.1, fun call' read' => ?_⟩
      obtain rfl : call = call' := by simpa [read] using read'
      exact touched
    have again := reached.reads_again plain sites read alone
    rw [broken] at again
    simp at again
  · -- Where the call has no end in the template, any site behind it counts as touching it.
    have first : resolved = [] := by
      refine List.eq_nil_iff_forall_not_mem.mpr fun other member => untouched ?_
      obtain ⟨site', behind⟩ := (mem_resolved_iff sites other).mp member
      refine ⟨other, site', behind, fun call read' => ?_⟩
      simp [read] at read'
    subst first
    have tried : ∃ cause, Progress.step ⟨bindings', functions⟩ ⟨template, []⟩ site =
        .error cause := by
      simp only [Progress.step, Scope.resolve, read]
      exact ⟨_, rfl⟩
    obtain ⟨cause, tried⟩ := tried
    have missed : render ⟨bindings', functions⟩ template = .error cause :=
      render_eq_error sites rfl tried
    rw [checked] at missed
    simp at missed

/-- The names of the functions that are always at hand are plain. -/
theorem builtins_plain : ∀ name ∈ Registry.builtins.keys, PlainName name := by
  decide

/-- A written tree is rendered with the functions that are always at hand, if the values are
mild. -/
theorem exists_render_builtins {bindings : Dictionary Value}
    (values : ∀ name value, bindings.find? name = some value → Mild bindings.keys value.text)
    (closed : ∀ name ∈ bindings.keys, '}' ∉ name) (tree : Tree)
    (wellFormed : tree.WellFormed Registry.builtins.keys) :
    ∃ shown, render ⟨bindings, Registry.builtins⟩ tree.written = .ok shown := by
  have apart : NoneEndsAnother Registry.builtins.keys := by
    unfold NoneEndsAnother
    decide
  have mild : MildScope ⟨bindings, Registry.builtins⟩ :=
    ⟨fun _ _ known => builtins_keepsMild known, values, closed⟩
  exact exists_render_written builtins_plain apart mild tree wellFormed

/-- Every written tree passes the check. -/
theorem exists_render_unbound (tree : Tree) (wellFormed : tree.WellFormed Registry.builtins.keys) :
    ∃ shown, render ⟨.empty, Registry.builtins⟩ tree.written = .ok shown := by
  refine exists_render_builtins ?_ ?_ tree wellFormed
  · intro name value bound
    simp [Dictionary.empty, Dictionary.find?] at bound
  · intro name known
    simp [Dictionary.keys, Dictionary.empty] at known

/-- A choice between two texts, with another call inside: the second text is shown under a
condition. -/
def nestedChoice : Tree :=
  .call ['t', 'r', 'n'] (.quoted (.literal ['1'] .nil)
    (.quoted (.call ['o', 'p', 't'] (.reference ['x'] (.quoted (.literal ['1'] .nil) .nil)) .nil)
      .nil)) .nil

/-- The choice is a written tree. -/
theorem nestedChoice_wellFormed : nestedChoice.WellFormed Registry.builtins.keys := by
  simp only [nestedChoice, Tree.WellFormed, Operands.WellFormed, Tree.BeginsWithCall, ne_eq,
    reduceCtorEq, not_false_eq_true, true_and, and_true]
  decide

/-- A variable that holds a backslash and nothing else. -/
def loneBackslash : Dictionary Value :=
  Dictionary.ofList [(['x'], .string ['\\'])]

/-- What is left of the choice when the call inside has returned this backslash. -/
def unclosedChoice : Text :=
  ['t', 'r', 'n', ':', '"', '1', '"', ':', '"', '\\', '"']

/-- The call inside is read up to the quote that closes the argument around it. -/
theorem read?_nestedChoice :
    Call.read? nestedChoice.written 9 = some (.ok ⟨['o', 'p', 't'],
      [.reference ['x'], .quoted [.text ['1']]], 9, 20, none⟩) := by
  decide +kernel

/-- In front of this quote the backslash escapes it, and the second string is not closed. -/
theorem read?_unclosedChoice :
    Call.read? unclosedChoice 0 = some (.error (.unterminatedString ['t', 'r', 'n'] 8)) := by
  decide +kernel

/-- The first step puts the backslash in the place of the call inside. -/
theorem step_nestedChoice :
    Progress.step ⟨loneBackslash, Registry.builtins⟩ ⟨nestedChoice.written, []⟩ 9 =
      .ok ⟨unclosedChoice, [⟨9, 20, 10⟩]⟩ := by
  rw [Progress.step, Scope.resolve, read?_nestedChoice]
  cbv

/-- The second step fails; no splice moves what stands in front of the call inside. -/
theorem step_unclosedChoice :
    Progress.step ⟨loneBackslash, Registry.builtins⟩ ⟨unclosedChoice, [⟨9, 20, 10⟩]⟩ 0 =
      .error (.malformed (.unterminatedString ['t', 'r', 'n'] 8)) := by
  rw [Progress.step, Scope.resolve, read?_unclosedChoice]
  rfl

/-- With a backslash for its variable the choice cannot be rendered. -/
theorem render_nestedChoice :
    render ⟨loneBackslash, Registry.builtins⟩ nestedChoice.written =
      .error (.malformed (.unterminatedString ['t', 'r', 'n'] 8)) := by
  have sites : callSites Registry.builtins.keys nestedChoice.written = [9] ++ 0 :: [] := by decide
  have started : Reaches ⟨loneBackslash, Registry.builtins⟩ nestedChoice.written []
      ⟨nestedChoice.written, []⟩ := rfl
  have reached : Reaches ⟨loneBackslash, Registry.builtins⟩ nestedChoice.written ([] ++ [9])
      ⟨unclosedChoice, [⟨9, 20, 10⟩]⟩ :=
    reaches_snoc_iff.mpr ⟨_, started, step_nestedChoice⟩
  exact render_eq_error sites reached step_unclosedChoice

/-- What it takes for a template to pass the check and to be at fault with some variables, as far
as the functions are those that are always at hand. Some call of the template, not behind the
fault, is touched by another one. And if the template is a written tree, the value of some
variable is not mild, or a variable has a name that no reference can spell. -/
theorem fault_missed_by_check (bindings : Dictionary Value) (template shown : Text)
    (fault : Fault) (checked : render ⟨.empty, Registry.builtins⟩ template = .ok shown)
    (failed : render ⟨bindings, Registry.builtins⟩ template = .error (.malformed fault)) :
    (∃ site ∈ callSites Registry.builtins.keys template, site ≤ fault.offset ∧
      ∃ other ∈ callSites Registry.builtins.keys template, Touches template site other) ∧
    ∀ tree : Tree, tree.WellFormed Registry.builtins.keys → template = tree.written →
      (∃ name value, bindings.find? name = some value ∧ ¬Mild bindings.keys value.text) ∨
        ∃ name ∈ bindings.keys, '}' ∈ name := by
  refine ⟨exists_touched_of_fault builtins_plain checked failed, ?_⟩
  rintro tree wellFormed rfl
  by_contra harmless
  obtain ⟨values, closed⟩ := not_or.mp harmless
  have mild : ∀ name value, bindings.find? name = some value → Mild bindings.keys value.text := by
    intro name value bound
    by_contra wild
    exact values ⟨name, value, bound, wild⟩
  have spelled : ∀ name ∈ bindings.keys, '}' ∉ name :=
    fun name known brace => closed ⟨name, known, brace⟩
  obtain ⟨result, rendered⟩ := exists_render_builtins mild spelled tree wellFormed
  rw [failed] at rendered
  simp at rendered

/-- A call that is directly in front of another one is at fault where that one returns a colon
and a brace, and a call around another one where that one returns a backslash. The check sees
nothing of either; the backslash is not mild. -/
theorem fault_missed_by_check_touching :
    let bindings : Dictionary Value :=
      Dictionary.ofList [(['b'], .string [':', '{']), (['c'], .bool true)]
    let template : Text :=
      ['o', 'p', 't', ':', '{', 'a', '}', 'o', 'p', 't', ':', '{', 'b', '}', ':', '{', 'c', '}']
    let fault : Fault := .unterminatedVariable ['o', 'p', 't'] 7
    let nestedFault : Fault := .unterminatedString ['t', 'r', 'n'] 8
    (render ⟨.empty, Registry.builtins⟩ template = .ok ['{', 'b', '}'] ∧
      render ⟨bindings, Registry.builtins⟩ template = .error (.malformed fault) ∧
      ∃ site ∈ callSites Registry.builtins.keys template, site ≤ fault.offset ∧
        ∃ other ∈ callSites Registry.builtins.keys template, Touches template site other) ∧
    render ⟨.empty, Registry.builtins⟩ nestedChoice.written = .ok ['{', 'x', '}'] ∧
      render ⟨loneBackslash, Registry.builtins⟩ nestedChoice.written =
        .error (.malformed nestedFault) ∧
      (∃ site ∈ callSites Registry.builtins.keys nestedChoice.written,
        site ≤ nestedFault.offset ∧
          ∃ other ∈ callSites Registry.builtins.keys nestedChoice.written,
            Touches nestedChoice.written site other) ∧
      nestedChoice.WellFormed Registry.builtins.keys ∧
      ∃ name value, loneBackslash.find? name = some value ∧
        ¬Mild loneBackslash.keys value.text := by
  intro bindings template fault nestedFault
  have checked : render ⟨.empty, Registry.builtins⟩ template = .ok ['{', 'b', '}'] := by cbv
  have failed : render ⟨bindings, Registry.builtins⟩ template = .error (.malformed fault) := by cbv
  have checked' : render ⟨.empty, Registry.builtins⟩ nestedChoice.written =
      .ok ['{', 'x', '}'] := by
    decide +kernel
  obtain ⟨touched, _⟩ :=
    fault_missed_by_check bindings template ['{', 'b', '}'] fault checked failed
  obtain ⟨touched', wild⟩ := fault_missed_by_check loneBackslash nestedChoice.written
    ['{', 'x', '}'] nestedFault checked' render_nestedChoice
  have spelled : ¬∃ name ∈ loneBackslash.keys, '}' ∈ name := by decide
  exact ⟨⟨checked, failed, touched⟩, checked', render_nestedChoice, touched',
    nestedChoice_wellFormed, (wild nestedChoice nestedChoice_wellFormed rfl).resolve_right spelled⟩

/-- A template that passes the check can be at fault with some variables: a value that is a
backslash takes the quote along that closes the argument around it. -/
theorem fault_missed_by_check_nested :
    let bindings : Dictionary Value := Dictionary.ofList [(['x'], .string ['\\'])]
    let template : Text :=
      ['t', 'r', 'n', ':', '"', '1', '"', ':', '"', 'o', 'p', 't', ':', '{', 'x', '}',
        ':', '"', '1', '"', '"']
    (∃ shown, render ⟨.empty, Registry.builtins⟩ template = .ok shown) ∧
      render ⟨bindings, Registry.builtins⟩ template =
        .error (.malformed (.unterminatedString ['t', 'r', 'n'] 8)) := by
  intro bindings template
  have written : nestedChoice.written = template := rfl
  rw [← written]
  exact ⟨exists_render_unbound nestedChoice nestedChoice_wellFormed, render_nestedChoice⟩

end Phrasebook.Template
