import Phrasebook.Proofs.Names

/-!
# The sites of a text

The search for calls goes through a text once and keeps what it finds in front of what it
found before. Its result is described here without the search: the sites are exactly the
offsets at which a listed name, its colon and an opener stand, and they decrease strictly.
Which names are listed matters only through their set.
-/

namespace Phrasebook.Template

/-- At a byte offset of a text stand a name, its colon and the opener of an argument. -/
def HeadAt (text : Text) (site : Nat) (name : Text) (opener : Char) : Prop :=
  ∃ before after, text = before ++ name ++ ':' :: opener :: after ∧ site = Text.width before

/-- The search adds the offsets of the places where a call begins, and nothing else. -/
theorem mem_callSitesFrom_iff {names : List Text} {found : List Nat} {offset site : Nat}
    {text : Text} :
    site ∈ callSitesFrom names found offset text ↔
      site ∈ found ∨ ∃ before first rest, text = before ++ first :: rest ∧
        site = offset + Text.width before ∧
        ∃ name ∈ names, startsCall name (first :: rest) = true := by
  induction text generalizing found offset with
  | nil => simp [callSitesFrom]
  | cons head tail inductionHypothesis =>
    rw [callSitesFrom, inductionHypothesis]
    constructor
    · rintro (earlier | ⟨before, first, rest, rfl, rfl, begins⟩)
      · split at earlier
        · rename_i here
          rcases List.mem_cons.mp earlier with rfl | earlier
          · exact Or.inr ⟨[], head, tail, rfl, by simp [Text.width], by simpa using here⟩
          · exact Or.inl earlier
        · exact Or.inl earlier
      · exact Or.inr ⟨head :: before, first, rest, rfl, by simp [Text.width]; omega, begins⟩
    · rintro (earlier | ⟨before, first, rest, same, rfl, begins⟩)
      · left
        split
        · exact List.mem_cons_of_mem _ earlier
        · exact earlier
      · cases before with
        | nil =>
          obtain ⟨rfl, rfl⟩ := List.cons.inj same
          left
          rw [if_pos (by simpa using begins)]
          simp [Text.width]
        | cons next others =>
          obtain ⟨rfl, rfl⟩ := List.cons.inj same
          exact Or.inr ⟨others, first, rest, rfl, by simp [Text.width]; omega, begins⟩

/-- The sites of a text are the places where a call to a listed name begins. -/
theorem mem_callSites_iff {names : List Text} {site : Nat} {text : Text} :
    site ∈ callSites names text ↔
      ∃ before after, text = before ++ after ∧ site = Text.width before ∧
        ∃ name ∈ names, startsCall name after = true := by
  rw [callSites, mem_callSitesFrom_iff]
  constructor
  · rintro (impossible | ⟨before, first, rest, whole, measured, begins⟩)
    · simp at impossible
    · exact ⟨before, first :: rest, whole, by simpa using measured, begins⟩
  · rintro ⟨before, after, whole, measured, name, member, begins⟩
    obtain ⟨nonempty, _, opener, others, _, headed⟩ := startsCall_eq_true_iff.mp begins
    cases after with
    | nil => simp at headed
    | cons first rest =>
      exact Or.inr ⟨before, first, rest, whole, by simpa using measured, name, member, begins⟩

/-- At every site stands the head of a call to a listed name. -/
theorem head_of_mem_callSites {names : List Text} {site : Nat} {text : Text}
    (member : site ∈ callSites names text) :
    ∃ name ∈ names, ∃ opener, IsOpener opener ∧ HeadAt text site name opener := by
  obtain ⟨before, after, rfl, measured, name, listed, begins⟩ := mem_callSites_iff.mp member
  obtain ⟨_, _, opener, rest, opens, rfl⟩ := startsCall_eq_true_iff.mp begins
  exact ⟨name, listed, opener, opens, before, rest, by simp, measured⟩

/-- At every site of a text a character begins. -/
theorem charAt?_of_mem_callSites {names : List Text} {site : Nat} {text : Text}
    (member : site ∈ callSites names text) :
    ∃ character, Text.charAt? text site = some character := by
  rcases mem_callSitesFrom_iff.mp member with impossible | ⟨before, first, rest, whole, measured, _⟩
  · simp at impossible
  · exact ⟨first, Text.charAt?_eq_some_iff.mpr ⟨before, rest, whole, by simpa using measured⟩⟩

/-- The search keeps its finds in strictly decreasing order, all of them below the place that
it has reached. -/
theorem callSitesFrom_descending {names : List Text} {found : List Nat} {offset : Nat}
    {text : Text} (descending : found.Pairwise (· > ·)) (below : ∀ site ∈ found, site < offset) :
    (callSitesFrom names found offset text).Pairwise (· > ·) := by
  induction text generalizing found offset with
  | nil => exact descending
  | cons first rest inductionHypothesis =>
    have positive := first.utf8Size_pos
    rw [callSitesFrom]
    split
    · refine inductionHypothesis (List.pairwise_cons.mpr ⟨below, descending⟩) ?_
      intro site member
      rcases List.mem_cons.mp member with rfl | earlier
      · omega
      · have bound := below site earlier
        omega
    · refine inductionHypothesis descending fun site member => ?_
      have bound := below site member
      omega

/-- The sites of a text decrease strictly. -/
theorem callSites_descending (names : List Text) (text : Text) :
    (callSites names text).Pairwise (· > ·) :=
  callSitesFrom_descending List.Pairwise.nil (by simp)

/-- The sites listed before one of them are those behind it in the text. -/
theorem mem_resolved_iff {names : List Text} {template : Text} {resolved pending : List Nat}
    {site : Nat} (sites : callSites names template = resolved ++ site :: pending) (other : Nat) :
    other ∈ resolved ↔ other ∈ callSites names template ∧ site < other := by
  have descending := callSites_descending names template
  rw [sites, List.pairwise_append, List.pairwise_cons] at descending
  obtain ⟨_, ⟨before, _⟩, behind⟩ := descending
  rw [sites, List.mem_append, List.mem_cons]
  constructor
  · intro member
    exact ⟨Or.inl member, behind other member site List.mem_cons_self⟩
  · rintro ⟨member | rfl | later, beyond⟩
    · exact member
    · omega
    · have earlier := before other later
      omega

end Phrasebook.Template
