import DawnServer.Proofs.Text.Lines
import DawnServer.Script.Binding
import Mathlib.Algebra.Group.Nat.Defs
import Mathlib.Data.Prod.Lex

/-!
# The search for bindings

A binding that is found stands at the front of the text it was found in, and its runs are of
the classes that the pattern asks for (`exists_of_at?`).  The search takes a step where no
binding stands and goes on behind one where it finds one (`find_of_none`, `find_of_at?`);
both together are an induction principle for whatever is said of it (`find_induction`).
-/

namespace DawnServer.Binding

open Text

theorem exists_of_longest? {α : Type} {belongs : Char → Bool} {next : Text → Option α}
    {text run : Text} {a : α} (h : longest? belongs next text = some (run, a)) :
    ∃ rest, text = run ++ rest ∧ run ≠ [] ∧ (∀ c ∈ run, belongs c = true) ∧
      next rest = some a := by
  induction text generalizing run with
  | nil => cases h
  | cons c text ih =>
    rw [longest?_cons] at h
    unfold grow at h
    by_cases hc : belongs c = true
    · rw [if_pos hc] at h
      cases hlonger : longest? belongs next text with
      | some longer =>
        obtain ⟨tail, b⟩ := longer
        rw [hlonger] at h
        cases h
        obtain ⟨rest, rfl, -, hbelongs, hnext⟩ := ih hlonger
        exact ⟨rest, rfl, List.cons_ne_nil c tail, List.forall_mem_cons.2 ⟨hc, hbelongs⟩, hnext⟩
      | none =>
        rw [hlonger] at h
        obtain ⟨b, hnext, heq⟩ := Option.map_eq_some_iff.1 h
        cases heq
        exact ⟨text, rfl, List.cons_ne_nil c [], by simpa using hc, hnext⟩
    · rw [if_neg hc] at h
      cases h

def Gap (run : Text) : Prop := run ≠ [] ∧ ∀ c ∈ run, isBlank c = true

def Stretch (run : Text) : Prop := run ≠ [] ∧ Unbroken run

theorem exists_gap {α : Type} {next : Text → Option α} {text run : Text} {a : α}
    (h : longest? isBlank next text = some (run, a)) :
    ∃ rest, text = run ++ rest ∧ Gap run ∧ next rest = some a := by
  obtain ⟨rest, hcut, hne, hblank, hnext⟩ := exists_of_longest? h
  exact ⟨rest, hcut, ⟨hne, hblank⟩, hnext⟩

theorem exists_stretch {α : Type} {next : Text → Option α} {text run : Text} {a : α}
    (h : longest? inLine next text = some (run, a)) :
    ∃ rest, text = run ++ rest ∧ Stretch run ∧ next rest = some a := by
  obtain ⟨rest, hcut, hne, hinline, hnext⟩ := exists_of_longest? h
  refine ⟨rest, hcut, ⟨hne, fun c hc => ?_⟩, hnext⟩
  have h := hinline c hc
  simpa [inLine] using h

theorem chars_append (b : Binding) (rest : Text) :
    b.chars ++ rest = keyword ++ (b.lead ++ (b.name ++ (b.space ++
      (['='] ++ (b.gap ++ (b.value ++ rest)))))) := by
  simp [chars]

/-- The runs of a binding are of the classes that the pattern asks for. -/
structure Formed (b : Binding) : Prop where
  lead : Gap b.lead
  name : Stretch b.name
  space : Gap b.space
  gap : Gap b.gap
  value : Stretch b.value

theorem exists_of_assigned? {text gap value : Text} (h : assigned? text = some (gap, value)) :
    ∃ rest, text = '=' :: (gap ++ (value ++ rest)) ∧ Gap gap ∧ Stretch value := by
  cases text with
  | nil => cases h
  | cons c text =>
    rw [assigned?_cons] at h
    by_cases hc : c = '='
    · rw [if_pos hc] at h
      obtain ⟨⟨gap', value', _⟩, hlongest, heq⟩ := Option.map_eq_some_iff.1 h
      cases heq
      obtain ⟨behind, rfl, hgap, hvalue⟩ := exists_gap hlongest
      obtain ⟨rest, rfl, hstretch, -⟩ := exists_stretch hvalue
      exact ⟨rest, by rw [hc], hgap, hstretch⟩
    · rw [if_neg hc] at h
      cases h

/-- **A binding that is found stands where it was found**, made of runs of the right
classes. -/
theorem exists_of_at? {text : Text} {b : Binding} (h : at? text = some b) :
    ∃ rest, text = b.chars ++ rest ∧ b.Formed := by
  obtain ⟨⟨lead, name, space, gap, value⟩, hruns, rfl⟩ := Option.map_eq_some_iff.1 h
  unfold runsAfter? at hruns
  cases hdrop : dropLead? keyword text with
  | none =>
    rw [hdrop] at hruns
    cases hruns
  | some behind =>
    rw [hdrop] at hruns
    obtain ⟨atName, rfl, hlead, hname⟩ := exists_gap hruns
    obtain ⟨atSpace, rfl, hstretch, hspace⟩ := exists_stretch hname
    obtain ⟨atSign, rfl, hgap, hassigned⟩ := exists_gap hspace
    obtain ⟨rest, rfl, hgap', hvalue⟩ := exists_of_assigned? hassigned
    refine ⟨rest, ?_, hlead, hstretch, hgap, hgap', hvalue⟩
    rw [eq_append_of_dropLead? hdrop]
    simp [chars, ofRuns]

/-! ## What the readers prefer -/

section

variable {α : Type}

theorem exists_longest? {belongs : Char → Bool} {next : Text → Option α} {run rest : Text} {a : α}
    (hne : run ≠ []) (hrun : ∀ c ∈ run, belongs c = true) (hnext : next rest = some a) :
    ∃ longer b, longest? belongs next (run ++ rest) = some (longer, b) ∧
      (run.length < longer.length ∨ longer = run ∧ b = a) := by
  induction run with
  | nil => exact absurd rfl hne
  | cons c run ih =>
    obtain ⟨hc, hrest⟩ := List.forall_mem_cons.1 hrun
    rw [List.cons_append, longest?_cons]
    unfold grow
    rw [if_pos hc]
    cases run with
    | nil =>
      cases hlonger : longest? belongs next ([] ++ rest) with
      | none => exact ⟨[c], a, by rw [List.nil_append, hnext]; rfl, .inr ⟨rfl, rfl⟩⟩
      | some longer =>
        obtain ⟨tail, b⟩ := longer
        obtain ⟨-, -, htail, -⟩ := exists_of_longest? hlonger
        exact ⟨c :: tail, b, rfl, .inl (Nat.succ_lt_succ (List.length_pos_iff.2 htail))⟩
    | cons d run =>
      obtain ⟨longer, b, hlonger, hcase⟩ := ih (List.cons_ne_nil d run) hrest
      rw [hlonger]
      refine ⟨c :: longer, b, rfl, hcase.imp Nat.succ_lt_succ ?_⟩
      rintro ⟨rfl, rfl⟩
      exact ⟨rfl, rfl⟩

/-- Whether a reader finds something wherever there is something to read, and ranks it highest
among all that can be read there. -/
def Greedy {β : Type} [LE β] (reads : Text → α → Prop) (rank : α → β)
    (next : Text → Option α) : Prop :=
  ∀ text a, reads text a → ∃ b, next text = some b ∧ rank a ≤ rank b

def RunThen (belongs : Char → Bool) (reads : Text → α → Prop) (text : Text) (read : Text × α) :
    Prop :=
  ∃ rest, text = read.1 ++ rest ∧ read.1 ≠ [] ∧ (∀ c ∈ read.1, belongs c = true) ∧
    reads rest read.2

/-- **The longest run is the greedy one**: a longer run comes before all that stands behind it. -/
theorem Greedy.longest? {β : Type} [PartialOrder β] {reads : Text → α → Prop} {rank : α → β}
    {next : Text → Option α} (h : Greedy reads rank next) (belongs : Char → Bool) :
    Greedy (RunThen belongs reads) (fun read => toLex (read.1.length, rank read.2))
      (longest? belongs next) := by
  rintro text ⟨run, a⟩ ⟨rest, rfl, hne, hrun, hreads⟩
  obtain ⟨best, hbest, hle⟩ := h rest a hreads
  obtain ⟨longer, b, hlonger, hcase⟩ := exists_longest? hne hrun hbest
  refine ⟨(longer, b), hlonger, Prod.Lex.toLex_le_toLex.2 (hcase.imp id ?_)⟩
  rintro ⟨rfl, rfl⟩
  exact ⟨rfl, hle⟩

end

/-- The lengths of the runs of a binding, an earlier run before a later one. -/
def widths (b : Binding) : ℕ ×ₗ ℕ ×ₗ ℕ ×ₗ ℕ ×ₗ ℕ :=
  toLex (b.lead.length, toLex (b.name.length, toLex (b.space.length,
    toLex (b.gap.length, b.value.length))))

def ReadsAssigned (text : Text) (read : Text × Text) : Prop :=
  ∃ behind, text = '=' :: behind ∧
    RunThen isBlank (RunThen inLine fun _ _ => True) behind (read.1, read.2, ())

theorem greedy_assigned? :
    Greedy ReadsAssigned (fun read => toLex (read.1.length, read.2.length)) assigned? := by
  have hend : Greedy (fun _ _ => True) (fun _ => ()) fun _ : Text => some () :=
    fun _ _ _ => ⟨(), rfl, le_refl ()⟩
  rintro text ⟨gap, value⟩ ⟨behind, rfl, hreads⟩
  obtain ⟨⟨gap', value', _⟩, hfound, hle⟩ :=
    (hend.longest? inLine).longest? isBlank behind (gap, value, ()) hreads
  refine ⟨(gap', value'), ?_, ?_⟩
  · rw [assigned?_cons, if_pos rfl, hfound, Option.map_some]
  · simpa [Prod.Lex.toLex_le_toLex, ← le_iff_lt_or_eq] using hle

/-- **The binding that is found has the longest runs**, an earlier run before a later one, of all
bindings at the same place, and one is found wherever there is one. -/
theorem Formed.exists_at? {b : Binding} (h : b.Formed) (rest : Text) :
    ∃ found, at? (b.chars ++ rest) = some found ∧ b.widths ≤ found.widths := by
  have hgreedy := ((greedy_assigned?.longest? isBlank).longest? inLine).longest? isBlank
  have hinline {run : Text} (hrun : Stretch run) : ∀ c ∈ run, inLine c = true := fun c hc => by
    rw [inLine, hrun.2 c hc, Bool.not_false]
  have hreads : RunThen isBlank (RunThen inLine (RunThen isBlank ReadsAssigned))
      (b.lead ++ (b.name ++ (b.space ++ (['='] ++ (b.gap ++ (b.value ++ rest))))))
      (b.lead, b.name, b.space, b.gap, b.value) :=
    ⟨_, rfl, h.lead.1, h.lead.2, _, rfl, h.name.1, hinline h.name, _, rfl, h.space.1, h.space.2,
      _, rfl, _, rfl, h.gap.1, h.gap.2, rest, rfl, h.value.1, hinline h.value, trivial⟩
  obtain ⟨runs, hruns, hle⟩ := hgreedy _ _ hreads
  refine ⟨ofRuns runs, ?_, hle⟩
  unfold at? runsAfter?
  rw [chars_append, dropLead?_append]
  exact congrArg (Option.map ofRuns) hruns

theorem chars_ne_nil (b : Binding) : b.chars ≠ [] := by
  simp [chars, keyword]

/-! ## Where the search goes on -/

theorem fronts_drop (text : Text) (n : Nat) : (fronts text).drop n = fronts (text.drop n) := by
  induction text generalizing n with
  | nil => simp [fronts, sweep]
  | cons c text ih =>
    cases n with
    | zero => rfl
    | succ n => rw [fronts_cons, List.drop_succ_cons, List.drop_succ_cons, ih]

theorem pick_eq_drop (covered : Nat) (row : List (Option Binding)) :
    pick covered row = pick 0 (row.drop covered) := by
  induction row generalizing covered with
  | nil => cases covered <;> simp [pick]
  | cons first row ih =>
    cases covered with
    | zero => rfl
    | succ covered => rw [pick, List.drop_succ_cons, ih]

theorem find_of_none {c : Char} {text : Text} (h : at? (c :: text) = none) :
    find (c :: text) = find text := by
  rw [find, fronts_cons, h, pick]
  rfl

theorem find_of_at? {b : Binding} {rest : Text} (h : at? (b.chars ++ rest) = some b) :
    find (b.chars ++ rest) = b :: find rest := by
  obtain ⟨c, tail, hchars⟩ := List.exists_cons_of_ne_nil b.chars_ne_nil
  rw [hchars, List.cons_append] at h ⊢
  have hcovered : b.chars.length - 1 = tail.length := by simp [hchars]
  rw [find, fronts_cons, h, pick, hcovered, pick_eq_drop, fronts_drop, List.drop_left' rfl]
  rfl

/-- **Induction along the search for bindings.**  The search is over, takes a step, or finds a
binding and goes on behind it. -/
@[elab_as_elim]
theorem find_induction {motive : Text → Prop} (nil : motive [])
    (step : ∀ c text, at? (c :: text) = none → motive text → motive (c :: text))
    (found : ∀ b rest, at? (b.chars ++ rest) = some b → b.Formed → motive rest →
      motive (b.chars ++ rest))
    (text : Text) : motive text := by
  induction hlength : text.length using Nat.strongRecOn generalizing text with
  | _ n ih =>
    cases text with
    | nil => exact nil
    | cons c text =>
      cases hat : at? (c :: text) with
      | none =>
        refine step c text hat (ih text.length ?_ text rfl)
        simp [← hlength]
      | some b =>
        obtain ⟨rest, hcut, hformed⟩ := exists_of_at? hat
        have hpos := List.length_pos_iff.2 b.chars_ne_nil
        rw [hcut] at hat hlength ⊢
        refine found b rest hat hformed (ih rest.length ?_ rest rfl)
        rw [← hlength, List.length_append]
        omega

end DawnServer.Binding
