import Phrasebook.Proofs.Sites
import Phrasebook.Template.Scope

/-!
# Template trees

A template is usually thought of as a tree: text, references and calls in a row, where the
quoted operands of a call are templates again. Here the tree is a type of its own, together
with its written form and with the text that it stands for, which is defined by recursion and
knows nothing of offsets or of replacing parts of a text.

The search for calls sees only the written form. It finds the calls of a tree, at every depth,
and nothing else, provided that the text between them is ordinary and that no name of a
function is the proper ending of another.
-/

namespace Phrasebook.Template

mutual

/-- A template as a sequence of parts. -/
inductive Tree where
  | nil
  /-- Text that stands for itself. -/
  | literal (text : Text) (rest : Tree)
  /-- A reference to a variable. -/
  | reference (name : Text) (rest : Tree)
  /-- A call of a function. -/
  | call (function : Text) (operands : Operands) (rest : Tree)

/-- The operands of a call. -/
inductive Operands where
  | nil
  /-- A reference to a variable. -/
  | reference (name : Text) (rest : Operands)
  /-- A quoted template, which may hold further calls. -/
  | quoted (body : Tree) (rest : Operands)

end

mutual

/-- The written form of a tree. -/
def Tree.written : Tree → Text
  | .nil => []
  | .literal text rest => text ++ rest.written
  | .reference name rest => '{' :: name ++ ['}'] ++ rest.written
  | .call function operands rest => function ++ operands.written ++ rest.written

/-- The written form of operands, each of them behind a colon. -/
def Operands.written : Operands → Text
  | .nil => []
  | .reference name rest => ':' :: '{' :: name ++ ['}'] ++ rest.written
  | .quoted body rest => ':' :: '"' :: body.written ++ ['"'] ++ rest.written

end

/-- Whether a call is the first part of a tree. -/
def Tree.BeginsWithCall : Tree → Prop
  | .call .. => True
  | _ => False

mutual

/-- The texts of a tree are ordinary and its literals not empty, it calls listed functions only,
each with at least one operand, and no call directly follows another. -/
def Tree.WellFormed (names : List Text) : Tree → Prop
  | .nil => True
  | .literal text rest => PlainName text ∧ rest.WellFormed names
  | .reference name rest => Ordinary name ∧ rest.WellFormed names
  | .call function operands rest =>
    function ∈ names ∧ operands ≠ .nil ∧ operands.WellFormed names ∧
      ¬rest.BeginsWithCall ∧ rest.WellFormed names

/-- The operands of a call are as the trees that they belong to. -/
def Operands.WellFormed (names : List Text) : Operands → Prop
  | .nil => True
  | .reference name rest => Ordinary name ∧ rest.WellFormed names
  | .quoted body rest => body.WellFormed names ∧ rest.WellFormed names

end

/-- What a function returns for some arguments, if it is known and has a result for them. -/
def Scope.resultOf? (scope : Scope) (function : Text) (arguments : List Text) : Option Text :=
  (scope.functions.find? function).bind fun apply => apply arguments

/-- What a call stands for: its protected result, or nothing if there is none. -/
def Scope.callText (scope : Scope) (function : Text) (arguments : List Text) : Text :=
  protect scope.functions.keys scope.bindings.keys ((scope.resultOf? function arguments).getD [])

mutual

/-- What a tree stands for in a scope. -/
def Tree.value (scope : Scope) : Tree → Text
  | .nil => []
  | .literal text rest => text ++ rest.value scope
  | .reference name rest => scope.referenceText name ++ rest.value scope
  | .call function operands rest =>
    scope.callText function (operands.values scope) ++ rest.value scope

/-- What the operands of a call stand for. -/
def Operands.values (scope : Scope) : Operands → List Text
  | .nil => []
  | .reference name rest => scope.referenceText name :: rest.values scope
  | .quoted body rest => body.value scope :: rest.values scope

end

mutual

/-- The results of all calls in a tree, at every depth. -/
def Tree.results (scope : Scope) : Tree → List (Option Text)
  | .nil => []
  | .literal _ rest => rest.results scope
  | .reference _ rest => rest.results scope
  | .call function operands rest =>
    operands.results scope ++ scope.resultOf? function (operands.values scope) ::
      rest.results scope

/-- The results of all calls in the operands of a call. -/
def Operands.results (scope : Scope) : Operands → List (Option Text)
  | .nil => []
  | .reference _ rest => rest.results scope
  | .quoted body rest => body.results scope ++ rest.results scope

end

mutual

/-- The offsets of the calls of a tree that is written at the given offset, the last one first. -/
def Tree.sites (offset : Nat) : Tree → List Nat
  | .nil => []
  | .literal text rest => rest.sites (offset + Text.width text)
  | .reference name rest => rest.sites (offset + Text.width ('{' :: name ++ ['}']))
  | .call function operands rest =>
    rest.sites (offset + Text.width (function ++ operands.written)) ++
      (operands.sites (offset + Text.width function) ++ [offset])

/-- The offsets of the calls in operands that are written at the given offset. -/
def Operands.sites (offset : Nat) : Operands → List Nat
  | .nil => []
  | .reference name rest => rest.sites (offset + Text.width (':' :: '{' :: name ++ ['}']))
  | .quoted body rest =>
    rest.sites (offset + Text.width (':' :: '"' :: body.written ++ ['"'])) ++
      body.sites (offset + Text.width [':', '"'])

end

/-- Ordinary characters and a colon before an opener end in a listed name, if a text begins
with them. -/
def Headed (names : List Text) (text : Text) : Prop :=
  ∀ run opener after, Ordinary run → IsOpener opener → text = run ++ ':' :: opener :: after →
    ∃ name ∈ names, name <:+ run

variable {names : List Text}

/-- The search passes over a character at which no call begins. -/
theorem callSitesFrom_cons {found : List Nat} {offset : Nat} {first : Char} {rest : Text}
    (silent : ∀ name ∈ names, startsCall name (first :: rest) = false) :
    callSitesFrom names found offset (first :: rest) =
      callSitesFrom names found (offset + Text.width [first]) rest := by
  have nothing : (names.any fun name => startsCall name (first :: rest)) = false :=
    List.any_eq_false.mpr fun name listed => by simp [silent name listed]
  rw [callSitesFrom, nothing]
  rfl

/-- The search passes over a character with a meaning, because no plain name begins with it. -/
theorem callSitesFrom_special (plain : ∀ name ∈ names, PlainName name) {found : List Nat}
    {offset : Nat} {first : Char} {rest : Text} (special : isOrdinary first = false) :
    callSitesFrom names found offset (first :: rest) =
      callSitesFrom names found (offset + Text.width [first]) rest := by
  refine callSitesFrom_cons fun name listed => Bool.eq_false_iff.mpr fun begins => ?_
  obtain ⟨_, _, opener, after, _, headed⟩ := startsCall_eq_true_iff.mp begins
  exact (plain name listed).append_ne_cons special _ _ headed.symm

/-- The search passes over a run of characters at none of which a call begins. -/
theorem callSitesFrom_append {found : List Nat} {offset : Nat} {run rest : Text}
    (silent : ∀ ending, ending <:+ run → ending ≠ [] → ∀ name ∈ names,
      startsCall name (ending ++ rest) = false) :
    callSitesFrom names found offset (run ++ rest) =
      callSitesFrom names found (offset + Text.width run) rest := by
  induction run generalizing offset with
  | nil => rfl
  | cons first others inductionHypothesis =>
    have here : ∀ name ∈ names, startsCall name (first :: (others ++ rest)) = false :=
      silent (first :: others) List.suffix_rfl (by simp)
    rw [List.cons_append, callSitesFrom_cons here,
      inductionHypothesis fun ending ends => silent ending (ends.trans (List.suffix_cons _ _))]
    simp [Text.width, Nat.add_assoc]

/-- The search passes over ordinary text, even if a call follows whose name ends like the text:
a listed name that began inside the text would have the name of that call as its ending. -/
theorem callSitesFrom_ordinary (plain : ∀ name ∈ names, PlainName name) {heads : List Text}
    (apart : ∀ head ∈ heads, ∀ name ∈ names, head <:+ name → head = name) {found : List Nat}
    {offset : Nat} {run rest : Text} (ordinary : Ordinary run) (headed : Headed heads rest) :
    callSitesFrom names found offset (run ++ rest) =
      callSitesFrom names found (offset + Text.width run) rest := by
  refine callSitesFrom_append fun ending ends nonempty name listed =>
    Bool.eq_false_iff.mpr fun begins => ?_
  obtain ⟨_, _, opener, after, opens, same⟩ := startsCall_eq_true_iff.mp begins
  obtain ⟨inside, rfl, behind⟩ : ∃ inside, name = ending ++ inside ∧
      rest = inside ++ ':' :: opener :: after := by
    rcases append_cons_cases same with ⟨between, rfl, _⟩ | ⟨between, rfl, behind⟩
    · exact absurd (ends.mem (by simp)) ordinary.colon_absent
    · exact ⟨between, rfl, behind⟩
  obtain ⟨_, others⟩ := ordinary_append.mp (plain _ listed).ordinary
  obtain ⟨other, otherListed, shorter⟩ := headed inside opener after others opens behind
  have whole : other = ending ++ inside :=
    apart other otherListed _ listed (shorter.trans (List.suffix_append _ _))
  rw [whole] at shorter
  have bound := shorter.length_le
  rw [List.length_append] at bound
  exact nonempty (List.length_eq_zero_iff.mp (by omega))

/-- The search finds a call at the first character of its name, and none at the others, as long
as no other name ends the name of the call. -/
theorem callSitesFrom_head (plain : ∀ name ∈ names, PlainName name) {function : Text}
    (apart : ∀ name ∈ names, name <:+ function → name = function) {found : List Nat}
    {offset : Nat} {rest : Text} {opener : Char} (listed : function ∈ names)
    (opens : IsOpener opener) :
    callSitesFrom names found offset (function ++ ':' :: opener :: rest) =
      callSitesFrom names (offset :: found) (offset + Text.width function)
        (':' :: opener :: rest) := by
  obtain ⟨nonempty, ordinary⟩ := plain function listed
  cases function with
  | nil => exact absurd rfl nonempty
  | cons first others =>
    have begins : (names.any fun name =>
        startsCall name (first :: (others ++ ':' :: opener :: rest))) = true :=
      List.any_eq_true.mpr ⟨_, listed, startsCall_eq_true_iff.mpr
        ⟨nonempty, ordinary.getLast_ne, opener, rest, opens, rfl⟩⟩
    rw [List.cons_append, callSitesFrom, if_pos begins, callSitesFrom_append]
    · simp [Text.width, Nat.add_assoc]
    · refine fun ending ends _ name named => Bool.eq_false_iff.mpr fun again => ?_
      obtain ⟨_, _, _, _, _, same⟩ := startsCall_eq_true_iff.mp again
      have within : ending <:+ first :: others := ends.trans (List.suffix_cons _ _)
      obtain ⟨rfl, _⟩ := Text.parts_eq_of_mark same
        (fun member => ordinary.colon_absent (within.mem member))
        (plain name named).ordinary.colon_absent
      have whole : ending = first :: others := apart ending named within
      have bound := ends.length_le
      rw [whole, List.length_cons] at bound
      omega

/-- A text that begins with a quote or a brace is headed, because no run of ordinary characters
reaches a colon from there. -/
theorem headed_of_special {first : Char} {rest : Text} (special : isOrdinary first = false)
    (notColon : first ≠ ':') : Headed names (first :: rest) := by
  rintro (_ | ⟨head, run⟩) opener after ordinary _ same
  · exact absurd (List.cons.inj same).1 notColon
  · rw [(List.cons.inj same).1, (ordinary_cons.mp ordinary).1] at special
    exact absurd special (by decide)

/-- Operands that are not empty are written with a colon and an opener first. -/
theorem Operands.exists_written_eq {operands : Operands} (some_ : operands ≠ .nil) :
    ∃ opener rest, IsOpener opener ∧ operands.written = ':' :: opener :: rest := by
  cases operands with
  | nil => exact absurd rfl some_
  | reference name rest => exact ⟨'{', _, Or.inr rfl, rfl⟩
  | quoted body rest => exact ⟨'"', _, Or.inl rfl, rfl⟩

/-- Ordinary characters before the first colon of a written tree end in the name of a call. -/
theorem Tree.headed (tree : Tree) (plain : ∀ name ∈ names, PlainName name)
    (wellFormed : tree.WellFormed names) {after : Text} (headed : Headed names after) :
    Headed names (tree.written ++ after) := by
  cases tree with
  | nil => exact headed
  | literal text rest =>
    intro run opener others ordinary opens same
    rw [Tree.written, List.append_assoc] at same
    rcases append_cons_cases same with ⟨between, rfl, _⟩ | ⟨between, rfl, behind⟩
    · exact absurd (by simp) wellFormed.1.ordinary.colon_absent
    · obtain ⟨name, listed, ends⟩ := rest.headed plain wellFormed.2 headed between opener others
        (ordinary_append.mp ordinary).2 opens behind
      exact ⟨name, listed, ends.trans (List.suffix_append _ _)⟩
  | reference name rest => exact headed_of_special (by decide) (by decide)
  | call function operands rest =>
    intro run opener others ordinary _ same
    obtain ⟨listed, some_, _⟩ := wellFormed
    obtain ⟨_, remaining, _, written⟩ := Operands.exists_written_eq some_
    rw [Tree.written, written, List.append_assoc, List.append_assoc, List.cons_append] at same
    obtain ⟨rfl, _⟩ := Text.parts_eq_of_mark same (plain function listed).ordinary.colon_absent
      ordinary.colon_absent
    exact ⟨function, listed, List.suffix_rfl⟩

/-- The search passes over a reference. -/
theorem callSitesFrom_reference (plain : ∀ name ∈ names, PlainName name) {found : List Nat}
    {offset : Nat} {name rest : Text} (ordinary : Ordinary name) :
    callSitesFrom names found offset ('{' :: name ++ ['}'] ++ rest) =
      callSitesFrom names found (offset + Text.width ('{' :: name ++ ['}'])) rest := by
  have closed : Headed [] ('}' :: rest) := headed_of_special (by decide) (by decide)
  rw [List.append_assoc, List.cons_append, callSitesFrom_special plain (by decide),
    List.singleton_append, callSitesFrom_ordinary plain (by simp) ordinary closed,
    callSitesFrom_special plain (by decide)]
  congr 1
  simp only [List.cons_append, Text.width, Text.width_append]
  omega

mutual

/-- The search finds the calls of a tree, and goes on behind it.

Proof: by recursion over the tree. At a call it takes the first character of the name, goes
through the operands and then through the rest, so it meets the sites in increasing order. -/
theorem Tree.callSitesFrom_written (plain : ∀ name ∈ names, PlainName name)
    (apart : NoneEndsAnother names) (tree : Tree) (wellFormed : tree.WellFormed names)
    {found : List Nat} {offset : Nat} {after : Text} (headed : Headed names after) :
    callSitesFrom names found offset (tree.written ++ after) =
      callSitesFrom names (tree.sites offset ++ found)
        (offset + Text.width tree.written) after := by
  cases tree with
  | nil => rfl
  | literal text rest =>
    obtain ⟨literal, others⟩ := wellFormed
    rw [Tree.written, List.append_assoc, callSitesFrom_ordinary plain apart literal.ordinary
      (rest.headed plain others headed), rest.callSitesFrom_written plain apart others headed,
      Tree.sites, Text.width_append, Nat.add_assoc]
  | reference name rest =>
    obtain ⟨ordinary, others⟩ := wellFormed
    rw [Tree.written, List.append_assoc, callSitesFrom_reference plain ordinary,
      rest.callSitesFrom_written plain apart others headed, Tree.sites]
    simp only [Text.width_append, Nat.add_assoc]
  | call function operands rest =>
    obtain ⟨listed, some_, inner, _, others⟩ := wellFormed
    obtain ⟨opener, remaining, opens, written⟩ := Operands.exists_written_eq some_
    have head : callSitesFrom names found offset
        (function ++ (operands.written ++ (rest.written ++ after))) =
        callSitesFrom names (offset :: found) (offset + Text.width function)
          (operands.written ++ (rest.written ++ after)) := by
      rw [written, List.cons_append, List.cons_append]
      exact callSitesFrom_head plain (fun name named => apart name named function listed)
        listed opens
    rw [Tree.written, List.append_assoc, List.append_assoc, head,
      operands.callSitesFrom_written plain apart inner,
      rest.callSitesFrom_written plain apart others headed, Tree.sites]
    simp [Text.width_append, Nat.add_assoc]

/-- The search finds the calls in the operands of a call. -/
theorem Operands.callSitesFrom_written (plain : ∀ name ∈ names, PlainName name)
    (apart : NoneEndsAnother names) (operands : Operands) (wellFormed : operands.WellFormed names)
    {found : List Nat} {offset : Nat} {after : Text} :
    callSitesFrom names found offset (operands.written ++ after) =
      callSitesFrom names (operands.sites offset ++ found)
        (offset + Text.width operands.written) after := by
  cases operands with
  | nil => rfl
  | reference name rest =>
    obtain ⟨ordinary, others⟩ := wellFormed
    have passed : callSitesFrom names found offset
        (':' :: ('{' :: name ++ ['}'] ++ (rest.written ++ after))) =
        callSitesFrom names found (offset + Text.width (':' :: '{' :: name ++ ['}']))
          (rest.written ++ after) := by
      rw [callSitesFrom_special plain (by decide), callSitesFrom_reference plain ordinary]
      simp only [List.cons_append, Text.width, Nat.add_assoc, Nat.zero_add]
    rw [Operands.written, Operands.sites, List.append_assoc]
    simp only [List.cons_append] at passed ⊢
    rw [passed, rest.callSitesFrom_written plain apart others]
    simp only [Text.width, Text.width_append, Nat.add_assoc]
  | quoted body rest =>
    obtain ⟨inner, others⟩ := wellFormed
    have closing : Headed names ('"' :: (rest.written ++ after)) :=
      headed_of_special (by decide) (by decide)
    have passed : callSitesFrom names found offset
        (':' :: '"' :: (body.written ++ '"' :: (rest.written ++ after))) =
        callSitesFrom names (body.sites (offset + Text.width [':', '"']) ++ found)
          (offset + Text.width (':' :: '"' :: body.written ++ ['"'])) (rest.written ++ after) := by
      rw [callSitesFrom_special plain (by decide), callSitesFrom_special plain (by decide),
        body.callSitesFrom_written plain apart inner closing,
        callSitesFrom_special plain (by decide)]
      simp only [List.cons_append, Text.width, Text.width_append, Nat.add_assoc, Nat.add_zero]
    rw [Operands.written, Operands.sites]
    simp only [List.cons_append, List.append_assoc, List.nil_append] at passed ⊢
    rw [passed, rest.callSitesFrom_written plain apart others]
    simp only [Text.width, Text.width_append, Nat.add_assoc, Nat.zero_add]

end

/-- The sites of a written tree are the offsets of its calls. -/
theorem Tree.callSites_written (plain : ∀ name ∈ names, PlainName name)
    (apart : NoneEndsAnother names) (tree : Tree) (wellFormed : tree.WellFormed names) :
    callSites names tree.written = tree.sites 0 := by
  have ended : Headed names [] := by
    intro run opener after _ _ same
    simp at same
  rw [callSites, ← List.append_nil tree.written,
    tree.callSitesFrom_written plain apart wellFormed ended, callSitesFrom, List.append_nil]

end Phrasebook.Template
