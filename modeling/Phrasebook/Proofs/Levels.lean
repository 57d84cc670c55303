import Phrasebook.Proofs.Names
import Phrasebook.Text.Blank

/-!
# Levels of escaping

The level of a delimiter is the length of the run of backslashes directly before it. Stripping
changes levels and nothing else: it takes one off a level of one, and leaves one of every higher
level. Writing a text literally, with a further backslash before each delimiter, changes levels
in the other direction.

Both are cases of one change of levels. Such changes can be made one after the other, and parts
of a text can be changed apart as long as no run of backslashes crosses the seam. A text stays
as it is exactly if its levels do; if levels only go down, it is enough to count the backslashes
that are left, and trimming does not hide any.
-/

namespace Phrasebook.Text

/-- Leaving out blanks at the start keeps every visible character. -/
theorem count_dropWhile_isBlank {character : Char} (visible : isBlank character = false)
    (text : Text) : (text.dropWhile isBlank).count character = text.count character := by
  induction text with
  | nil => rfl
  | cons first rest inductionHypothesis =>
    by_cases blank : isBlank first = true
    · have different : first ≠ character := by
        rintro rfl
        exact absurd blank (by simp [visible])
      rw [List.dropWhile_cons_of_pos blank, inductionHypothesis, List.count_cons_of_ne different]
    · rw [List.dropWhile_cons_of_neg blank]

/-- Trimming keeps every visible character. -/
theorem count_trim {character : Char} (visible : isBlank character = false) (text : Text) :
    (trim text).count character = text.count character := by
  rw [trim, trimEnd, List.count_reverse, count_dropWhile_isBlank visible, List.count_reverse,
    trimStart, count_dropWhile_isBlank visible]

end Phrasebook.Text

namespace Phrasebook.Template

/-- Changes the levels of the delimiters in a text that follows a run of backslashes. A run in
front of another character, or at the end, stays. -/
def relevelAfter (change : Nat → Nat) : Nat → Text → Text
  | run, [] => List.replicate run '\\'
  | run, first :: rest =>
    if first = '\\' then relevelAfter change (run + 1) rest
    else
      List.replicate (if isDelimiter first then change run else run) '\\' ++
        first :: relevelAfter change 0 rest

/-- Changes the levels of all delimiters in a text. -/
def relevel (change : Nat → Nat) (text : Text) : Text :=
  relevelAfter change 0 text

/-- The level that stripping leaves of a level. -/
def strippedLevel (level : Nat) : Nat :=
  if 1 < level then 1 else 0

/-- The text with one more backslash before each delimiter. -/
def literally (text : Text) : Text :=
  text.flatMap fun character => if isDelimiter character then ['\\', character] else [character]

/-- No delimiter of the text stands behind more than so many backslashes. -/
def LevelAtMost (bound : Nat) (text : Text) : Prop :=
  ∀ before character after,
    text = before ++ (List.replicate (bound + 1) '\\' ++ character :: after) →
      isDelimiter character = false

variable {change : Nat → Nat} {first : Char} {rest : Text} {bound : Nat}

/-- A text is a run of backslashes, or such a run, another character and a text. What holds of
the first and goes over to the second holds of every text. -/
@[elab_as_elim]
theorem runInduction {motive : Text → Prop} (text : Text)
    (run : ∀ count, motive (List.replicate count '\\'))
    (next : ∀ count first rest, first ≠ '\\' → motive rest →
      motive (List.replicate count '\\' ++ first :: rest)) : motive text := by
  have behind : ∀ count, motive (List.replicate count '\\' ++ text) := by
    induction text with
    | nil =>
      intro count
      rw [List.append_nil]
      exact run count
    | cons first rest inductionHypothesis =>
      intro count
      by_cases backslash : first = '\\'
      · subst backslash
        have longer := inductionHypothesis (count + 1)
        rwa [List.replicate_succ', List.append_assoc, List.singleton_append] at longer
      · exact next count first rest backslash (inductionHypothesis 0)
  exact behind 0

/-- A run of backslashes is taken as a whole. -/
theorem relevelAfter_replicate_append (run count : Nat) (text : Text) :
    relevelAfter change run (List.replicate count '\\' ++ text) =
      relevelAfter change (run + count) text := by
  induction count generalizing run with
  | zero => rfl
  | succ count inductionHypothesis =>
    rw [List.replicate_succ, List.cons_append, relevelAfter, if_pos rfl, inductionHypothesis]
    congr 1
    omega

/-- A change of levels keeps a run of backslashes with nothing behind it. -/
theorem relevel_run (count : Nat) :
    relevel change (List.replicate count '\\') = List.replicate count '\\' := by
  rw [relevel, ← List.append_nil (List.replicate count '\\'), relevelAfter_replicate_append,
    List.append_nil, Nat.zero_add]
  rfl

/-- A change of levels changes the run before a delimiter and keeps one before another character.
Behind that character it begins anew. -/
theorem relevel_run_cons (other : first ≠ '\\') (count : Nat) (rest : Text) :
    relevel change (List.replicate count '\\' ++ first :: rest) =
      List.replicate (if isDelimiter first then change count else count) '\\' ++
        first :: relevel change rest := by
  rw [relevel, relevelAfter_replicate_append, relevelAfter, if_neg other, Nat.zero_add]
  rfl

/-- Stripping is a change of levels. -/
theorem stripAfter_eq_relevelAfter (run : Nat) (text : Text) :
    stripAfter run text = relevelAfter strippedLevel run text := by
  induction text generalizing run with
  | nil => rfl
  | cons first rest inductionHypothesis =>
    rw [stripAfter, relevelAfter, inductionHypothesis, inductionHypothesis]
    by_cases delimiter : isDelimiter first = true
    · by_cases high : 1 < run
      · simp [delimiter, high, strippedLevel]
      · simp [delimiter, high, strippedLevel]
    · simp [delimiter]

/-- Stripping is a change of levels. -/
theorem strip_eq_relevel (text : Text) : strip text = relevel strippedLevel text :=
  stripAfter_eq_relevelAfter 0 text

/-- Writing a text literally is a change of levels. -/
theorem literally_eq_relevel (text : Text) : literally text = relevel (· + 1) text := by
  have run (count : Nat) : literally (List.replicate count '\\') = List.replicate count '\\' := by
    induction count with
    | zero => rfl
    | succ count inductionHypothesis =>
      rw [List.replicate_succ, literally, List.flatMap_cons]
      exact congrArg ('\\' :: ·) inductionHypothesis
  induction text using runInduction with
  | run count => rw [relevel_run, run]
  | next count first rest other inductionHypothesis =>
    rw [relevel_run_cons other, ← inductionHypothesis, literally, List.flatMap_append,
      List.flatMap_cons, ← literally, ← literally, run]
    by_cases delimiter : isDelimiter first = true
    · simp [delimiter, List.replicate_succ']
    · simp [delimiter]

/-- Two changes of levels are one. -/
theorem relevel_relevel (outer inner : Nat → Nat) (text : Text) :
    relevel outer (relevel inner text) = relevel (outer ∘ inner) text := by
  induction text using runInduction with
  | run count => rw [relevel_run, relevel_run, relevel_run]
  | next count first rest other inductionHypothesis =>
    rw [relevel_run_cons other, relevel_run_cons other, relevel_run_cons other,
      inductionHypothesis]
    by_cases delimiter : isDelimiter first = true
    · simp [delimiter]
    · simp [delimiter]

/-- Levels on both sides of a seam change apart, if the first part does not end in a backslash. -/
theorem relevel_append {front : Text} (closed : front.getLast? ≠ some '\\') (rest : Text) :
    relevel change (front ++ rest) = relevel change front ++ relevel change rest := by
  induction front using runInduction with
  | run count =>
    cases count with
    | zero => rfl
    | succ count => exact absurd (by rw [List.replicate_succ', List.getLast?_concat]) closed
  | next count first others other inductionHypothesis =>
    have further : others.getLast? ≠ some '\\' := by
      cases others with
      | nil => simp
      | cons head tail => simpa using closed
    rw [List.append_assoc, List.cons_append, relevel_run_cons other, relevel_run_cons other,
      inductionHypothesis further, List.append_assoc, List.cons_append]

/-- In particular both sides of such a seam are stripped apart. -/
theorem strip_append {front : Text} (closed : front.getLast? ≠ some '\\') (rest : Text) :
    strip (front ++ rest) = strip front ++ strip rest := by
  rw [strip_eq_relevel, strip_eq_relevel, strip_eq_relevel]
  exact relevel_append closed rest

/-- A run of backslashes in front of an ordinary character stays. -/
theorem relevel_run_ordinary_cons (plain : isOrdinary first = true) (count : Nat) (rest : Text) :
    relevel change (List.replicate count '\\' ++ first :: rest) =
      List.replicate count '\\' ++ first :: relevel change rest := by
  obtain ⟨delimiter, backslash⟩ : isDelimiter first = false ∧ first ≠ '\\' := by
    simpa [isOrdinary] using plain
  rw [relevel_run_cons backslash, delimiter]
  rfl

/-- A change of levels keeps an ordinary text, which has none. -/
theorem relevel_ordinary {text : Text} (ordinary : Ordinary text) : relevel change text = text := by
  induction text with
  | nil => rfl
  | cons first rest inductionHypothesis =>
    obtain ⟨plain, others⟩ := ordinary_cons.mp ordinary
    calc relevel change (first :: rest)
      _ = first :: relevel change rest := relevel_run_ordinary_cons plain 0 rest
      _ = first :: rest := by rw [inductionHypothesis others]

/-- A change of levels keeps what stands behind a text, if that is ordinary: even a run of
backslashes that ends the text comes before another character then. -/
theorem relevel_append_ordinary {back : Text} (ordinary : Ordinary back) (text : Text) :
    relevel change (text ++ back) = relevel change text ++ back := by
  induction text using runInduction with
  | run count =>
    cases back with
    | nil => rw [List.append_nil, List.append_nil]
    | cons first rest =>
      obtain ⟨plain, others⟩ := ordinary_cons.mp ordinary
      rw [relevel_run_ordinary_cons plain, relevel_run, relevel_ordinary others]
  | next count first rest other inductionHypothesis =>
    rw [List.append_assoc, List.cons_append, relevel_run_cons other, relevel_run_cons other,
      inductionHypothesis, List.append_assoc, List.cons_append]

/-- No level stands before the end of a text. -/
theorem levelAtMost_run (bound count : Nat) : LevelAtMost bound (List.replicate count '\\') := by
  intro before character after same
  have member : character ∈ List.replicate count '\\' := by
    rw [same]
    simp
  obtain ⟨_, rfl⟩ := List.mem_replicate.mp member
  rfl

/-- Levels are told run by run. -/
theorem levelAtMost_run_cons_iff (other : first ≠ '\\') (count : Nat) :
    LevelAtMost bound (List.replicate count '\\' ++ first :: rest) ↔
      (isDelimiter first = true → count ≤ bound) ∧ LevelAtMost bound rest := by
  constructor
  · intro low
    constructor
    · intro delimiter
      by_contra high
      have split : List.replicate count '\\' =
          List.replicate (count - (bound + 1)) '\\' ++ List.replicate (bound + 1) '\\' := by
        rw [List.replicate_append_replicate]
        congr 1
        omega
      have flat := low (List.replicate (count - (bound + 1)) '\\') first rest
        (by rw [split, List.append_assoc])
      rw [flat] at delimiter
      exact absurd delimiter (by decide)
    · intro before character after same
      exact low (List.replicate count '\\' ++ first :: before) character after (by simp [same])
  · rintro ⟨low, others⟩ before character after same
    rw [← List.append_assoc] at same
    rcases append_cons_cases same with ⟨between, inside, _⟩ | ⟨between, crossing, behind⟩
    · have member : character ∈ List.replicate count '\\' := by simp [inside]
      obtain ⟨_, rfl⟩ := List.mem_replicate.mp member
      rfl
    · cases between with
      | nil =>
        obtain ⟨rfl, rfl⟩ := List.cons.inj behind
        have lengths := congrArg List.length crossing
        simp only [List.length_append, List.length_replicate, List.append_nil] at lengths
        by_contra delimiter
        have bounded := low (by simpa using delimiter)
        omega
      | cons head further =>
        obtain ⟨rfl, rfl⟩ := List.cons.inj behind
        -- The run before the character cannot reach over the character that ends the first run.
        rcases append_cons_cases crossing with ⟨inner, _, rfl⟩ | ⟨inner, _, run⟩
        · exact others inner character after (List.append_assoc _ _ _)
        · have member : first ∈ List.replicate (bound + 1) '\\' := by simp [run]
          exact absurd (List.mem_replicate.mp member).2 other

/-- Two runs of backslashes in front of another character are told apart by their lengths. -/
theorem run_cons_inj (other : first ≠ '\\') {count count' : Nat} {rest' : Text} :
    List.replicate count '\\' ++ first :: rest = List.replicate count' '\\' ++ first :: rest' ↔
      count = count' ∧ rest = rest' := by
  constructor
  · intro same
    have absent (length : Nat) : first ∉ List.replicate length '\\' := by
      intro member
      exact other (List.mem_replicate.mp member).2
    obtain ⟨runs, rests⟩ := Text.parts_eq_of_mark same (absent count) (absent count')
    exact ⟨by simpa using congrArg List.length runs, rests⟩
  · rintro ⟨rfl, rfl⟩
    rfl

/-- Levels that do not change leave the text as it is. -/
theorem relevel_id (text : Text) : relevel id text = text := by
  induction text using runInduction with
  | run count => exact relevel_run count
  | next count first rest other inductionHypothesis =>
    rw [relevel_run_cons other, inductionHypothesis, id_eq, ite_self]

/-- Two changes that agree on exactly the levels up to a bound agree on exactly the texts whose
levels stay within that bound. -/
theorem relevel_eq_relevel_iff {other : Nat → Nat}
    (agree : ∀ level, change level = other level ↔ level ≤ bound) (text : Text) :
    relevel change text = relevel other text ↔ LevelAtMost bound text := by
  induction text using runInduction with
  | run count =>
    rw [relevel_run, relevel_run]
    exact iff_of_true rfl (levelAtMost_run bound count)
  | next count first rest apart inductionHypothesis =>
    rw [relevel_run_cons apart, relevel_run_cons apart, run_cons_inj apart,
      levelAtMost_run_cons_iff apart, inductionHypothesis]
    by_cases delimiter : isDelimiter first = true
    · simp [delimiter, agree]
    · simp [delimiter]

/-- A change that keeps exactly the levels up to a bound keeps exactly the texts whose levels stay
within that bound. -/
theorem relevel_eq_self_iff (keeps : ∀ level, change level = level ↔ level ≤ bound)
    (text : Text) : relevel change text = text ↔ LevelAtMost bound text := by
  have agreed : relevel change text = relevel id text ↔ LevelAtMost bound text :=
    relevel_eq_relevel_iff keeps text
  rwa [relevel_id] at agreed

/-- Backslashes are counted run by run. -/
theorem count_run_cons (other : first ≠ '\\') (count : Nat) (rest : Text) :
    (List.replicate count '\\' ++ first :: rest).count '\\' = count + rest.count '\\' := by
  rw [List.count_append, List.count_replicate_self, List.count_cons_of_ne other]

/-- Where levels only go down, a text loses backslashes or stays as it is. -/
theorem relevel_eq_self_or_count_lt (lowers : ∀ level, change level ≤ level) (text : Text) :
    relevel change text = text ∨ (relevel change text).count '\\' < text.count '\\' := by
  induction text using runInduction with
  | run count => exact Or.inl (relevel_run count)
  | next count first rest other inductionHypothesis =>
    have bounded : (if isDelimiter first then change count else count) ≤ count := by
      split
      · exact lowers count
      · exact Nat.le_refl count
    rw [relevel_run_cons other, run_cons_inj other, count_run_cons other, count_run_cons other]
    rcases inductionHypothesis with same | fewer
    · rcases Nat.eq_or_lt_of_le bounded with kept | lowered
      · exact Or.inl ⟨kept, same⟩
      · rw [same]
        exact Or.inr (by omega)
    · exact Or.inr (by omega)

/-- Levels that go down show wherever the text is put and however it is trimmed. -/
theorem trim_relevel_iff (lowers : ∀ level, change level ≤ level) (before text after : Text) :
    Text.trim (before ++ relevel change text ++ after) = Text.trim (before ++ text ++ after) ↔
      relevel change text = text := by
  constructor
  · intro same
    have counted := congrArg (List.count '\\') same
    rw [Text.count_trim (by decide), Text.count_trim (by decide)] at counted
    simp only [List.count_append] at counted
    rcases relevel_eq_self_or_count_lt lowers text with unchanged | fewer
    · exact unchanged
    · omega
  · intro unchanged
    rw [unchanged]

/-- Stripping keeps level zero and lowers every other. -/
theorem strippedLevel_eq_self_iff (level : Nat) : strippedLevel level = level ↔ level ≤ 0 := by
  unfold strippedLevel
  split <;> omega

/-- Stripping raises no level. -/
theorem strippedLevel_le (level : Nat) : strippedLevel level ≤ level := by
  unfold strippedLevel
  split <;> omega

/-- Stripping keeps a text exactly if no backslash stands directly before a delimiter. -/
theorem strip_eq_self_iff (text : Text) : strip text = text ↔ LevelAtMost 0 text := by
  rw [strip_eq_relevel]
  exact relevel_eq_self_iff strippedLevel_eq_self_iff text

/-- No delimiter has a level in a text without backslashes. -/
theorem levelAtMost_zero_of_not_mem {text : Text} (clean : '\\' ∉ text) : LevelAtMost 0 text := by
  rintro before character after rfl
  simp at clean

/-- Stripping keeps a text without backslashes in front of any other. -/
theorem strip_append_of_not_mem {front : Text} (clean : '\\' ∉ front) (rest : Text) :
    strip (front ++ rest) = front ++ strip rest := by
  have closed : front.getLast? ≠ some '\\' := by
    intro last
    exact clean (List.mem_of_getLast? last)
  have kept : strip front = front :=
    (strip_eq_self_iff front).mpr (levelAtMost_zero_of_not_mem clean)
  rw [strip_append closed, kept]

/-- Stripping a literally written text raises no level of the text. -/
theorem strippedLevel_succ_le (level : Nat) : (strippedLevel ∘ (· + 1)) level ≤ level := by
  rw [Function.comp_apply, strippedLevel]
  split <;> omega

/-- Stripping a literally written text brings back the levels zero and one. -/
theorem strippedLevel_succ_eq_self_iff (level : Nat) :
    (strippedLevel ∘ (· + 1)) level = level ↔ level ≤ 1 := by
  rw [Function.comp_apply, strippedLevel]
  split <;> omega

end Phrasebook.Template
