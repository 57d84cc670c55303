import Mathlib
import Phrasebook.Proofs.Resolution
import Phrasebook.Proofs.Sites
import Phrasebook.Report.Diagnostic

/-!
# Where a character comes from

While the calls of a template are resolved, the characters of the template move and those of
results join them. Here every character carries a mark with its origin: its own offset in the
template, or the site of the call that it was put in for. Marks are kept beside a run of the
loop and do not take part in it, so every run has them.

Tracing an offset back through the splices of a run finds the place that the mark of the
character there names. A fault is therefore reported where the template holds the opener that
was never closed, or at the call whose replacement brought that opener in.
-/

namespace Phrasebook.Template

/-- Where a character of a text comes from. -/
inductive Origin where
  /-- It has been part of the template from the start, at this offset. -/
  | template (offset : Nat)
  /-- It was put in for the call at this site. -/
  | replacement (site : Nat)
deriving DecidableEq

/-- The offset in the template that an origin names. -/
def Origin.place : Origin → Nat
  | .template offset => offset
  | .replacement site => site

/-- The characters of a part of the template, marked with where they stand. -/
def marked (offset : Nat) : Text → List (Char × Origin)
  | [] => []
  | first :: rest => (first, .template offset) :: marked (offset + first.utf8Size) rest

/-- The loop has gone through these sites and arrived at this progress, whose characters have
these marks. A replacement marks what it puts in and leaves all other marks alone. -/
inductive Provenance (scope : Scope) (template : Text) :
    List Nat → Progress → List (Char × Origin) → Prop where
  | start : Provenance scope template [] ⟨template, []⟩ (marked 0 template)
  | kept {resolved : List Nat} {site : Nat} {progress : Progress} {marks : List (Char × Origin)}
      (earlier : Provenance scope template resolved progress marks)
      (stepped : progress.step scope site = .ok progress) :
      Provenance scope template (resolved ++ [site]) progress marks
  | replaced {resolved : List Nat} {site : Nat} {progress next : Progress}
      {front taken rest : List (Char × Origin)} {replacement : Text}
      (earlier : Provenance scope template resolved progress (front ++ (taken ++ rest)))
      (here : site = Text.width (front.map Prod.fst))
      (stepped : progress.step scope site = .ok next)
      (exchanged : next =
        ⟨front.map Prod.fst ++ replacement ++ rest.map Prod.fst,
          ⟨site, Text.width ((front ++ taken).map Prod.fst),
            Text.width (front.map Prod.fst ++ replacement)⟩ :: progress.splices⟩) :
      Provenance scope template (resolved ++ [site]) next
        (front ++ (replacement.map (fun character => (character, .replacement site)) ++ rest))

variable {scope : Scope} {template : Text} {resolved : List Nat} {progress : Progress}
  {marks : List (Char × Origin)}

/-- Marking a text does not change it. -/
theorem map_fst_marked (offset : Nat) (text : Text) : (marked offset text).map Prod.fst = text := by
  induction text generalizing offset with
  | nil => rfl
  | cons first rest inductionHypothesis => simp [marked, inductionHypothesis]

/-- At first, every character is marked with where it stands. -/
theorem marked_eq_append {text : Text} {offset : Nat} {front back : List (Char × Origin)}
    {character : Char} {origin : Origin}
    (parts : marked offset text = front ++ (character, origin) :: back) :
    origin = .template (offset + Text.width (front.map Prod.fst)) := by
  induction text generalizing offset front with
  | nil => simp [marked] at parts
  | cons first rest inductionHypothesis =>
    rw [marked] at parts
    cases front with
    | nil =>
      obtain ⟨same, _⟩ := List.cons.inj parts
      simpa [Text.width] using (Prod.mk.inj same).2.symm
    | cons head others =>
      obtain ⟨rfl, remaining⟩ := List.cons.inj parts
      have origin_eq := inductionHypothesis remaining
      simpa [Text.width, Nat.add_assoc] using origin_eq

/-- The marked characters make up the text at hand. -/
theorem Provenance.map_fst_eq (run : Provenance scope template resolved progress marks) :
    marks.map Prod.fst = progress.text := by
  induction run with
  | start => exact map_fst_marked 0 template
  | kept _ _ inductionHypothesis => exact inductionHypothesis
  | replaced _ _ _ exchanged => simp [exchanged, Function.comp_def]

/-- Every run of the loop can be marked. -/
theorem Reaches.exists_provenance (reached : Reaches scope template resolved progress) :
    ∃ marks, Provenance scope template resolved progress marks := by
  induction resolved using List.reverseRecOn generalizing progress with
  | nil =>
    cases reached
    exact ⟨_, .start⟩
  | append_singleton earlier site inductionHypothesis =>
    obtain ⟨current, before, stepped⟩ := reaches_snoc_iff.mp reached
    obtain ⟨marks, run⟩ := inductionHypothesis before
    obtain ⟨first, second, parts, rfl, rfl | ⟨taken, replacement, rest, rfl, _, exchanged⟩⟩ :=
      step_cases stepped
    · exact ⟨marks, .kept run stepped⟩
    · obtain ⟨front, behind, rfl, rfl, back⟩ :=
        List.map_eq_append_iff.mp (run.map_fst_eq.trans parts)
      obtain ⟨spanned, remaining, rfl, rfl, rfl⟩ := List.map_eq_append_iff.mp back
      exact ⟨_, .replaced run rfl stepped (by simpa using exchanged)⟩

/-- A splice that begins behind an offset leaves it where it is. -/
theorem Splice.trace_of_lt {splice : Splice} {offset : Nat} (before : offset < splice.start)
    (forward : splice.start ≤ splice.landed) : splice.trace offset = offset := by
  rw [Splice.trace, if_neg (by omega), if_neg (by omega)]

/-- An offset inside a replacement goes back to where the replaced call began. -/
theorem Splice.trace_of_inside {splice : Splice} {offset : Nat} (after : splice.start ≤ offset)
    (inside : offset < splice.landed) : splice.trace offset = splice.start := by
  rw [Splice.trace, if_neg (by omega)]
  split
  · rfl
  · omega

/-- An offset behind a replacement moves with the text there. -/
theorem Splice.trace_of_landed_le {splice : Splice} {offset : Nat}
    (behind : splice.landed ≤ offset) :
    splice.trace offset = splice.stop + (offset - splice.landed) := by
  rw [Splice.trace, if_pos behind]

/-- Tracing does not go back beyond an offset before which no splice begins. -/
theorem Splice.le_trace {splice : Splice} {bound offset : Nat} (begins : bound ≤ splice.start)
    (forward : splice.start ≤ splice.stop) (within : bound ≤ offset) :
    bound ≤ splice.trace offset := by
  rw [Splice.trace]
  split
  · omega
  · split <;> omega

/-- An offset before all splices is its own place in the template. -/
theorem Progress.trace_eq_self {offset : Nat}
    (before : ∀ splice ∈ progress.splices,
      offset < splice.start ∧ splice.start ≤ splice.landed) : progress.trace offset = offset := by
  obtain ⟨text, splices⟩ := progress
  induction splices with
  | nil => rfl
  | cons first rest inductionHypothesis =>
    obtain ⟨below, forward⟩ := before first List.mem_cons_self
    have others := inductionHypothesis fun splice member =>
      before splice (List.mem_cons_of_mem _ member)
    rw [Progress.trace, List.foldl_cons, Splice.trace_of_lt below forward]
    exact others

/-- The place of an offset in the template is not before an offset at which or behind which all
splices begin. -/
theorem Progress.le_trace {bound offset : Nat}
    (behind : ∀ splice ∈ progress.splices, bound ≤ splice.start ∧ splice.start ≤ splice.stop)
    (within : bound ≤ offset) : bound ≤ progress.trace offset := by
  obtain ⟨text, splices⟩ := progress
  induction splices generalizing offset with
  | nil => exact within
  | cons first rest inductionHypothesis =>
    obtain ⟨begins, forward⟩ := behind first List.mem_cons_self
    rw [Progress.trace, List.foldl_cons]
    exact inductionHypothesis (first.le_trace begins forward within) fun splice member =>
      behind splice (List.mem_cons_of_mem _ member)

/-- Every splice of a run begins at a site that the run went through, and covers no fewer than
zero bytes in either text. -/
theorem Provenance.splice_bounds (run : Provenance scope template resolved progress marks) :
    ∀ splice ∈ progress.splices, splice.start ∈ resolved ∧ splice.start ≤ splice.stop ∧
      splice.start ≤ splice.landed := by
  induction run with
  | start => simp
  | kept _ _ inductionHypothesis =>
    intro splice member
    obtain ⟨known, forward⟩ := inductionHypothesis splice member
    exact ⟨List.mem_append_left _ known, forward⟩
  | replaced _ here _ exchanged inductionHypothesis =>
    intro splice member
    rw [exchanged] at member
    rcases List.mem_cons.mp member with rfl | older
    · refine ⟨by simp, ?_, ?_⟩
      · simp only [here, List.map_append, Text.width_append]
        omega
      · simp only [here, Text.width_append]
        omega
    · obtain ⟨known, forward⟩ := inductionHypothesis splice older
      exact ⟨List.mem_append_left _ known, forward⟩

/-- While the sites are gone through in decreasing order, the site of the next call is its own
place in the template. -/
theorem Provenance.trace_site (run : Provenance scope template resolved progress marks)
    {site : Nat} (below : ∀ other ∈ resolved, site < other) : progress.trace site = site := by
  refine progress.trace_eq_self fun splice member => ?_
  obtain ⟨known, _, lands⟩ := run.splice_bounds splice member
  exact ⟨below _ known, lands⟩

/-- No place behind the site of the next call goes back beyond that site. -/
theorem Provenance.site_le_trace (run : Provenance scope template resolved progress marks)
    {site offset : Nat} (below : ∀ other ∈ resolved, site < other) (within : site ≤ offset) :
    site ≤ progress.trace offset := by
  refine progress.le_trace (fun splice member => ?_) within
  obtain ⟨known, spans, _⟩ := run.splice_bounds splice member
  exact ⟨Nat.le_of_lt (below _ known), spans⟩

/-- Tracing an offset back finds the place that the mark of the character there names.

Proof: by induction on the run. A character before the replacement keeps its offset, one inside
it goes back to the site, which is before all older splices, and one behind it goes back to
where it stood before the step. -/
theorem Provenance.trace_eq_place (run : Provenance scope template resolved progress marks)
    (descending : resolved.Pairwise (· > ·)) {front back : List (Char × Origin)}
    {character : Char} {origin : Origin} (parts : marks = front ++ (character, origin) :: back) :
    progress.trace (Text.width (front.map Prod.fst)) = origin.place := by
  induction run generalizing front back with
  | start =>
    rw [marked_eq_append parts]
    simp [Progress.trace, Origin.place]
  | kept _ _ inductionHypothesis =>
    exact inductionHypothesis (List.pairwise_append.mp descending).1 parts
  | @replaced resolved site current next before taken rest replacement earlier here _ exchanged
      inductionHypothesis =>
    obtain ⟨older, _, below⟩ := List.pairwise_append.mp descending
    have traced (offset : Nat) : next.trace offset = current.trace (Splice.trace
        ⟨site, Text.width ((before ++ taken).map Prod.fst),
          Text.width (before.map Prod.fst ++ replacement)⟩ offset) := by
      rw [exchanged]
      rfl
    rw [traced]
    rcases append_cons_cases parts with ⟨between, rfl, _⟩ | ⟨between, rfl, behind⟩
    · have unmoved : Text.width (front.map Prod.fst) < site := by
        have positive := character.utf8Size_pos
        simp only [here, List.map_append, List.map_cons, Text.width_append, Text.width]
        omega
      rw [Splice.trace_of_lt unmoved (by simp only [here, Text.width_append]; omega)]
      exact inductionHypothesis older (List.append_assoc _ _ _)
    · rcases append_cons_cases behind with ⟨others, inside, _⟩ | ⟨others, rfl, rfl⟩
      · obtain ⟨shown, following, rfl, rfl, headed⟩ := List.map_eq_append_iff.mp inside
        obtain ⟨first, remaining, rfl, same, _⟩ := List.map_eq_cons_iff.mp headed
        obtain ⟨rfl, rfl⟩ := Prod.mk.inj same
        have positive := first.utf8Size_pos
        rw [Splice.trace_of_inside]
        · exact earlier.trace_site fun other known => below other known site List.mem_cons_self
        · simp only [here, List.map_append, Text.width_append]
          omega
        · simp [Text.width_append, Text.width, Function.comp_def]
          omega
      · have stood : before ++ (taken ++ (others ++ (character, origin) :: back)) =
            (before ++ taken ++ others) ++ (character, origin) :: back := by simp
        rw [← inductionHypothesis older stood, Splice.trace_of_landed_le]
        · congr 1
          simp only [List.map_append, List.map_map, Function.comp_def, List.map_id',
            Text.width_append]
          omega
        · simp only [List.map_append, List.map_map, Function.comp_def, List.map_id',
            Text.width_append]
          omega

/-- A fault that was moved is at its new offset. -/
theorem Fault.offset_moveTo (fault : Fault) (offset : Nat) :
    (fault.moveTo offset).offset = offset := by
  cases fault <;> rfl

/-- The fault of an argument that is not closed is at its opening. -/
theorem Unclosed.offset_fault (unclosed : Unclosed) (function : Text) (offset : Nat) :
    (unclosed.fault function offset).offset = offset := by
  cases unclosed <;> rfl

/-- A mark is true of its character: the template holds that character at the offset, or the
run has gone through the site. -/
def Origin.TrueOf (template : Text) (resolved : List Nat) (character : Char) : Origin → Prop
  | .template offset => Text.charAt? template offset = some character
  | .replacement site => site ∈ resolved

/-- Going through one more site keeps a mark true. -/
theorem Origin.TrueOf.snoc {character : Char} {origin : Origin}
    (holds : origin.TrueOf template resolved character) (site : Nat) :
    origin.TrueOf template (resolved ++ [site]) character := by
  cases origin with
  | template offset => exact holds
  | replacement other => exact List.mem_append_left _ holds

/-- All marks of a run are true. -/
theorem Provenance.trueOf (run : Provenance scope template resolved progress marks) :
    ∀ mark ∈ marks, mark.2.TrueOf template resolved mark.1 := by
  induction run with
  | start =>
    intro mark member
    obtain ⟨front, back, parts⟩ := List.append_of_mem member
    have standing := map_fst_marked 0 template
    rw [marked_eq_append parts]
    refine Text.charAt?_eq_some_iff.mpr ⟨front.map Prod.fst, back.map Prod.fst, ?_, by simp⟩
    rw [parts, List.map_append, List.map_cons] at standing
    exact standing.symm
  | kept _ _ inductionHypothesis =>
    exact fun mark member => (inductionHypothesis mark member).snoc _
  | replaced _ _ _ _ inductionHypothesis =>
    intro mark member
    rcases List.mem_append.mp member with before | within
    · exact (inductionHypothesis mark (List.mem_append_left _ before)).snoc _
    · rcases List.mem_append.mp within with inside | behind
      · obtain ⟨character, _, rfl⟩ := List.mem_map.mp inside
        exact List.mem_append_right _ List.mem_cons_self
      · exact (inductionHypothesis mark (by simp [behind])).snoc _

/-- Wherever the loop arrives, a character of the text either stands in the template at the
place to which its offset is traced back, or was put in for the call that began at that place.

Proof: tracing finds the place named by the mark of the character, and the mark is true. -/
theorem Provenance.character_traced (run : Provenance scope template resolved progress marks)
    (descending : resolved.Pairwise (· > ·)) {before after : Text} {character : Char}
    (whole : progress.text = before ++ character :: after) :
    ∃ front origin back, marks = front ++ (character, origin) :: back ∧
      front.map Prod.fst = before ∧ back.map Prod.fst = after ∧
      (origin = .template (progress.trace (Text.width before)) ∧
          Text.charAt? template (progress.trace (Text.width before)) = some character ∨
        origin = .replacement (progress.trace (Text.width before)) ∧
          progress.trace (Text.width before) ∈ resolved) := by
  obtain ⟨front, behind, rfl, rfl, headed⟩ :=
    List.map_eq_append_iff.mp (run.map_fst_eq.trans whole)
  obtain ⟨⟨shown, origin⟩, back, rfl, rfl, rfl⟩ := List.map_eq_cons_iff.mp headed
  have place : progress.trace (Text.width (front.map Prod.fst)) = origin.place :=
    run.trace_eq_place descending rfl
  have holds := run.trueOf (shown, origin) (by simp)
  refine ⟨front, origin, back, rfl, rfl, rfl, ?_⟩
  rw [place]
  cases origin with
  | template offset => exact Or.inl ⟨rfl, holds⟩
  | replacement site => exact Or.inr ⟨rfl, holds⟩

/-- A step that meets a fault was reading the call at its site. Either the call lacks its colon,
or an argument behind its start is not closed. -/
theorem step_malformed_cases {site : Nat} {fault : Fault}
    (failed : progress.step scope site = .error (.malformed fault)) :
    ∃ met, Call.read? progress.text site = some (.error met) ∧
      fault = met.moveTo (progress.trace met.offset) ∧
      (met = .missingSeparator site ∨ ∃ function unclosed before opening,
        progress.text = before ++ opening ∧ met = unclosed.fault function (Text.width before) ∧
          readArgument opening = .error unclosed ∧ site ≤ Text.width before) := by
  cases cut : Text.cut? progress.text site with
  | none => simp [Progress.step, Scope.resolve, Call.read?, cut] at failed
  | some parts =>
    obtain ⟨before, after⟩ := parts
    obtain ⟨whole, rfl⟩ := Text.eq_append_of_cut? cut
    have resolution := resolve_resolution scope before after
    rw [← whole] at resolution
    rw [Progress.step] at failed
    generalize scope.resolve progress.text (Text.width before) = answer at resolution failed
    cases resolution with
    | noSeparator absent =>
      simp only [Except.error.injEq, CallError.malformed.injEq] at failed
      refine ⟨.missingSeparator (Text.width before), ?_, failed.symm, Or.inl rfl⟩
      simp [whole, read?_append, Call.readHere, absent]
    | unclosed name taken opening unclosed named broken =>
      simp only [Except.error.injEq, CallError.malformed.injEq] at failed
      have headed : after = name ++ ':' :: (taken ++ opening) := eq_append_of_readName? named
      refine ⟨_, whole ▸ read?_eq_error named broken, failed.symm, Or.inr ⟨name, unclosed,
        before ++ name ++ ':' :: taken, opening, by simp [whole, headed], rfl,
        (failing_of_readArguments broken).1, ?_⟩⟩
      simp only [Text.width_append]
      omega
    | unknown => simp at failed
    | noResult => simp at failed
    | replaced => simp at failed

/-- A fault at which a character of the template begins is inside the template, and a diagnostic
for it is not moved. -/
theorem offset_ofFault_of_charAt? {fault : Fault} {character : Char}
    (here : Text.charAt? template fault.offset = some character) :
    (fault.offset < Text.width template ∧ (Text.cut? template fault.offset).isSome) ∧
      ∀ title, (Report.Diagnostic.ofFault title template fault).offset = fault.offset := by
  have inside := Text.lt_width_of_charAt? here
  exact ⟨inside, fun _ => Nat.min_eq_left (Nat.le_of_lt inside.1)⟩

/-- Every fault of a render points into the template.

Its offset is one where a character of the template begins, so a diagnostic for it is not
moved. The failing call is the one that the loop tried at a site, in a text whose marks say
where each character comes from. Either the call lacks its colon and its site is at fault. Or
an argument behind the site is not closed, and its opener has either stood in the template at
the offset of the fault from the start, or it was put in for a call resolved earlier, which
began at that offset.

Proof: tracing finds the place named by the mark of the opener, and marks are true. -/
theorem render_fault_traced (scope : Scope) (template : Text) (fault : Fault)
    (failed : render scope template = .error (.malformed fault)) :
    (fault.offset < Text.width template ∧ (Text.cut? template fault.offset).isSome) ∧
      (∀ title, (Report.Diagnostic.ofFault title template fault).offset = fault.offset) ∧
      ∃ resolved site pending progress marks met,
        callSites scope.functions.keys template = resolved ++ site :: pending ∧
        Provenance scope template resolved progress marks ∧
        marks.map Prod.fst = progress.text ∧
        Call.read? progress.text site = some (.error met) ∧
        fault = met.moveTo fault.offset ∧ site ≤ fault.offset ∧
        (met = .missingSeparator site ∧ fault.offset = site ∨
          ∃ function unclosed front opener origin back,
            met = unclosed.fault function (Text.width (front.map Prod.fst)) ∧
            marks = front ++ (opener, origin) :: back ∧
            readArgument (opener :: back.map Prod.fst) = .error unclosed ∧
            unclosed.OpenedBy opener ∧
            (origin = .template fault.offset ∧ Text.charAt? template fault.offset = some opener ∨
              origin = .replacement fault.offset ∧ fault.offset ∈ resolved)) := by
  obtain ⟨resolved, site, pending, progress, sites, reached, stepped⟩ := exists_failing_step failed
  have descending := callSites_descending scope.functions.keys template
  rw [sites, List.pairwise_append] at descending
  obtain ⟨older, _, ordered⟩ := descending
  have below : ∀ other ∈ resolved, site < other :=
    fun other known => ordered other known site List.mem_cons_self
  obtain ⟨marks, run⟩ := reached.exists_provenance
  obtain ⟨met, read, moved, kind⟩ := step_malformed_cases stepped
  have offset : fault.offset = progress.trace met.offset := by rw [moved, Fault.offset_moveTo]
  have renamed : fault = met.moveTo fault.offset := by rw [offset, ← moved]
  rcases kind with rfl | ⟨function, unclosed, before, opening, whole, rfl, failing, behind⟩
  · have unmoved : fault.offset = site := offset.trans (run.trace_site below)
    obtain ⟨character, here⟩ := charAt?_of_mem_callSites
      (sites ▸ List.mem_append_right resolved List.mem_cons_self)
    obtain ⟨inside, clamped⟩ := offset_ofFault_of_charAt? (unmoved.symm ▸ here)
    exact ⟨inside, clamped, resolved, site, pending, progress, marks, _, sites, run,
      run.map_fst_eq, read, renamed, Nat.le_of_eq unmoved.symm, Or.inl ⟨rfl, unmoved⟩⟩
  · rw [Unclosed.offset_fault] at offset
    have forward : site ≤ fault.offset := offset ▸ run.site_le_trace below behind
    obtain ⟨opener, rest, rfl, opened⟩ := openedBy_of_readArgument failing
    obtain ⟨front, origin, back, parts, rfl, rfl, standing⟩ := run.character_traced older whole
    rw [← offset] at standing
    obtain ⟨character, here⟩ : ∃ character,
        Text.charAt? template fault.offset = some character := by
      rcases standing with ⟨_, here⟩ | ⟨_, known⟩
      · exact ⟨opener, here⟩
      · exact charAt?_of_mem_callSites (sites ▸ List.mem_append_left _ known)
    obtain ⟨inside, clamped⟩ := offset_ofFault_of_charAt? here
    exact ⟨inside, clamped, resolved, site, pending, progress, marks, _, sites, run,
      run.map_fst_eq, read, renamed, forward, Or.inr ⟨function, unclosed, front, opener, origin,
        back, rfl, parts, failing, opened, standing⟩⟩

/-- A brace that stands seven bytes behind the start of the text, after an empty result and a
colon that lost its backslash, is reported at its place in the template. -/
theorem render_fault_traced_emptied :
    let scope : Scope :=
      ⟨Dictionary.ofList [(['x'], .string ['y'])],
        Dictionary.ofList [(['f'], fun arguments => arguments.head?), (['g'], fun _ => some [])]⟩
    let template : Text :=
      ['f', ':', '{', 'x', '}', ':', 'g', ':', '{', 'x', '}', '\\', ':', '{', 'z']
    render scope template = .error (.malformed (.unterminatedVariable ['f'] 13)) ∧
      13 < Text.width template ∧ (Text.cut? template 13).isSome ∧
      ∀ title, (Report.Diagnostic.ofFault title template
        (.unterminatedVariable ['f'] 13)).offset = 13 := by
  intro scope template
  have failed : render scope template = .error (.malformed (.unterminatedVariable ['f'] 13)) := by
    cbv
  obtain ⟨inside, clamped, _⟩ := render_fault_traced scope template _ failed
  exact ⟨failed, inside.1, inside.2, clamped⟩

end Phrasebook.Template
