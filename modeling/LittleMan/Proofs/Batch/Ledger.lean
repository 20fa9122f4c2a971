import LittleMan.Batch.Request
import LittleMan.Proofs.Basic
import LittleMan.Proofs.Batch.Verdict
import Mathlib.Data.List.Forall2

/-!
# What enters a ledger

Whatever is asked of a ledger comes down to a list of entries, each a record or a malformed line
(`Ledger.Request.entries`), unless a test file cannot be read. What comes of an entry depends on the
image that it is tried on and on nothing else (`settled`). The outcomes of a request are those of
its entries up to the first one that is refused (`Ledger.Request.outcomes`). They enter the ledger
behind what is there, in order (`Ledger.runEntries_spec`), and a refusal hides everything behind it,
from the log as well (`Ledger.runEntries_of_refused`).

So what a ledger comes to hold is known from the requests alone (`Ledger.extends_session`).
-/

namespace LittleMan

/-- The values of a list of results in front of the first cause. -/
def leadingValues {ε α : Type} : List (Except ε α) → List α
  | .ok a :: rest => a :: leadingValues rest
  | _ => []

section

variable {ε α : Type}

/-- Values come first. -/
lemma leadingValues_append (as : List α) (rest : List (Except ε α)) :
    leadingValues (as.map .ok ++ rest) = as ++ leadingValues rest := by
  induction as with
  | nil => rfl
  | cons a as ih => exact congrArg (a :: ·) ih

/-- If all results are values, these are all of them. -/
lemma leadingValues_map_ok (as : List α) :
    leadingValues (as.map (Except.ok : α → Except ε α)) = as := by
  have h := leadingValues_append as ([] : List (Except ε α))
  rw [List.append_nil] at h
  exact h.trans (List.append_nil as)

/-- Results all of which are values are those of a list of values. -/
lemma exists_map_ok {xs : List (Except ε α)} (h : ∀ x ∈ xs, ∃ a, x = .ok a) :
    ∃ as : List α, xs = as.map .ok := by
  induction xs with
  | nil => exact ⟨[], rfl⟩
  | cons x xs ih =>
    obtain ⟨⟨a, rfl⟩, hrest⟩ := List.forall_mem_cons.mp h
    obtain ⟨as, rfl⟩ := ih hrest
    exact ⟨a :: as, rfl⟩

/-- The values of results are in relation to what they are the results of. -/
lemma forall₂_of_map_eq {β : Type} {f : β → Except ε α} {bs : List β} {as : List α}
    (h : bs.map f = as.map .ok) : List.Forall₂ (fun b a => f b = .ok a) bs as := by
  have heq : List.Forall₂ (fun x y => x = y) (bs.map f) (as.map .ok) := by
    rw [h]
    exact List.forall₂_refl _
  rwa [List.forall₂_map_left_iff, List.forall₂_map_right_iff] at heq

/-- What stands on the right of a relation of lists is in relation to something on the left. -/
lemma exists_of_mem_right {β : Type} {R : α → β → Prop} {as : List α} {bs : List β}
    (h : List.Forall₂ R as bs) {b : β} (hb : b ∈ bs) : ∃ a ∈ as, R a b := by
  induction h with
  | nil => cases hb
  | cons hfirst _ ih =>
    rcases List.mem_cons.mp hb with rfl | hb
    · exact ⟨_, List.mem_cons_self, hfirst⟩
    · obtain ⟨a, ha, hR⟩ := ih hb
      exact ⟨a, List.mem_cons_of_mem _ ha, hR⟩

/-- Relations of lists can be composed. -/
lemma forall₂_comp {β γ : Type} {R : α → β → Prop} {S : β → γ → Prop} {T : α → γ → Prop}
    {as : List α} {bs : List β} {cs : List γ} (hR : List.Forall₂ R as bs)
    (hS : List.Forall₂ S bs cs) (h : ∀ a ∈ as, ∀ b c, R a b → S b c → T a c) :
    List.Forall₂ T as cs := by
  induction hR generalizing cs with
  | nil =>
    cases hS
    exact .nil
  | cons hfirst _ ih =>
    cases hS with
    | cons hnext hrest =>
      exact .cons (h _ List.mem_cons_self _ _ hfirst hnext)
        (ih hrest fun a ha => h a (List.mem_cons_of_mem _ ha))

/-- A leading value is one of the results. -/
lemma mem_of_mem_leadingValues {xs : List (Except ε α)} {a : α} (h : a ∈ leadingValues xs) :
    .ok a ∈ xs := by
  induction xs with
  | nil => cases h
  | cons x xs ih =>
    cases x with
    | error e => cases h
    | ok b =>
      rcases List.mem_cons.mp h with rfl | h
      · exact List.mem_cons_self
      · exact List.mem_cons_of_mem _ (ih h)

end

namespace Batch

open Machine

/-! ### Entries -/

/-- What comes of an entry of a test file that is tried on an image. -/
def outcomeOf (image : List Datum) : Except Record.Error Record → Except Error Outcome
  | .error e => .ok (.ofMalformed e)
  | .ok record => (trial image record).2

/-- What comes of an entry if there may be no image to try it on. A malformed line needs none. -/
def settled (image : Option (List Datum)) (entry : Except Record.Error Record) :
    Except Error Outcome :=
  match image, entry with
  | some image, entry => outcomeOf image entry
  | none, .error e => .ok (.ofMalformed e)
  | none, .ok _ => .error .noImage

/-- A malformed line has the same outcome on every image, and without one. -/
lemma settled_malformed (image : Option (List Datum)) (e : Record.Error) :
    settled image (.error e) = .ok (.ofMalformed e) := by
  cases image <;> rfl

/-- An entry is refused if it is a record, and there is no image or no outcome. -/
lemma settled_eq_error_iff {image : Option (List Datum)} {entry : Except Record.Error Record}
    {e : Error} : settled image entry = .error e ↔ ∃ record, entry = .ok record ∧
      (image = none ∧ e = .noImage ∨
        ∃ words, image = some words ∧ (trial words record).2 = .error e) := by
  rcases image with _ | words
  · rcases entry with e | record
    · simp [settled]
    · simp [settled, eq_comm]
  · rcases entry with e | record
    · simp [settled, outcomeOf]
    · simp [settled, outcomeOf]

/-- A record is refused for want of an image exactly if there is none. -/
lemma settled_eq_noImage_iff (image : Option (List Datum)) (entry : Except Record.Error Record) :
    settled image entry = .error .noImage ↔ image = none ∧ ∃ record, entry = .ok record := by
  rw [settled_eq_error_iff]
  constructor
  · rintro ⟨record, rfl, ⟨rfl, -⟩ | ⟨words, -, htrial⟩⟩
    · exact ⟨rfl, record, rfl⟩
    · obtain ⟨hoverflow, -⟩ | ⟨budget, hnegative, -⟩ := trial_refused htrial
      · cases hoverflow
      · cases hnegative
  · rintro ⟨rfl, record, rfl⟩
    exact ⟨record, rfl, .inl ⟨rfl, rfl⟩⟩

/-- It is refused for its budget exactly if that is negative and its program could be run. -/
lemma settled_eq_negativeBudget_iff (image : Option (List Datum))
    (entry : Except Record.Error Record) (budget : Int) :
    settled image entry = .error (.negativeBudget budget) ↔ ∃ words record,
      image = some words ∧ entry = .ok record ∧ record.budget = some budget ∧ budget < 0 ∧
        ∃ ready, Prepared words record.inputs ready := by
  rw [settled_eq_error_iff]
  constructor
  · rintro ⟨record, rfl, ⟨-, hnone⟩ | ⟨words, rfl, htrial⟩⟩
    · cases hnone
    · obtain ⟨hoverflow, -⟩ | ⟨budget', heq, hbudget, hneg, hprepared⟩ := trial_refused htrial
      · cases hoverflow
      · obtain rfl := Error.negativeBudget.inj heq
        exact ⟨words, record, rfl, rfl, hbudget, hneg, hprepared⟩
  · rintro ⟨words, record, rfl, rfl, hbudget, hneg, ready, prepared⟩
    exact ⟨record, rfl, .inr ⟨words, rfl, trial_of_neg hbudget hneg prepared⟩⟩

/-- It is refused for a number that cannot be written only if its outcome has one to show. -/
lemma of_settled_eq_overflow {image : Option (List Datum)} {entry : Except Record.Error Record}
    {o : Text.Overflow} (h : settled image entry = .error (.overflow o)) :
    o = .writing ∧ ∃ words record, image = some words ∧ entry = .ok record ∧
      ¬ IsShowable words record := by
  obtain ⟨record, rfl, ⟨-, hnone⟩ | ⟨words, rfl, htrial⟩⟩ := settled_eq_error_iff.mp h
  · cases hnone
  · obtain ⟨hoverflow, hshow⟩ | ⟨budget, hnegative, -⟩ := trial_refused htrial
    · exact ⟨Error.overflow.inj hoverflow, words, record, rfl, rfl, hshow⟩
    · cases hnegative

namespace Ledger

/-! ### Carrying out entries -/

/-- The ledger `after` has the image of the ledger `l`, and some more outcomes behind those of
`l`. -/
structure Extends (l : Ledger) (os : List Outcome) (after : Ledger) : Prop where
  image : after.image = l.image
  results : after.results = l.results ++ os

section

variable {l next after : Ledger} {os os' : List Outcome}

lemma Extends.refl (l : Ledger) : Extends l [] l :=
  ⟨rfl, (List.append_nil l.results).symm⟩

lemma Extends.trans (h : Extends l os next) (h' : Extends next os' after) :
    Extends l (os ++ os') after where
  image := h'.image.trans h.image
  results := by rw [h'.results, h.results, List.append_assoc]

end

/-- Carries out an entry. -/
def settle (l : Ledger) (override : Option (List Datum)) :
    Except Record.Error Record → Ledger × Except Error Outcome
  | .error e =>
    ((l.enter (.ofMalformed e)).tell [malformedLine (.ofMalformed e)], .ok (.ofMalformed e))
  | .ok record => l.runRecord override record

/-- Entries are carried out one after the other, up to the first that is refused. -/
lemma runEntries_cons (l : Ledger) (override : Option (List Datum))
    (entry : Except Record.Error Record) (rest : List (Except Record.Error Record)) :
    l.runEntries override (entry :: rest) = match l.settle override entry with
      | (after, .error e) => (after, .error e)
      | (after, .ok o) => match after.runEntries override rest with
        | (final, .error e) => (final, .error e)
        | (final, .ok os) => (final, .ok (o :: os)) := by
  cases entry <;> rfl

/-- What comes of an entry enters the ledger. -/
lemma settle_spec (l : Ledger) (override : Option (List Datum))
    (entry : Except Record.Error Record) :
    Extends l (leadingValues [settled (override.or l.image) entry]) (l.settle override entry).1 ∧
      (l.settle override entry).2 = settled (override.or l.image) entry := by
  rcases entry with e | record
  · rw [settled_malformed]
    exact ⟨⟨rfl, rfl⟩, rfl⟩
  · unfold settle runRecord
    cases override.or l.image with
    | none => exact ⟨.refl l, rfl⟩
    | some image =>
      unfold settled outcomeOf
      dsimp only
      rcases trial image record with ⟨m, e | o⟩
      · exact ⟨⟨rfl, (List.append_nil l.results).symm⟩, rfl⟩
      · exact ⟨⟨rfl, rfl⟩, rfl⟩

/-- What comes of entries, up to the first that is refused, enters the ledger in order. -/
theorem runEntries_spec (l : Ledger) (override : Option (List Datum))
    (entries : List (Except Record.Error Record)) :
    Extends l (leadingValues (entries.map (settled (override.or l.image))))
        (l.runEntries override entries).1 ∧
      (l.runEntries override entries).2 =
        (entries.map (settled (override.or l.image))).mapM id := by
  induction entries generalizing l with
  | nil => exact ⟨.refl l, rfl⟩
  | cons entry rest ih =>
    obtain ⟨hentered, hanswer⟩ := l.settle_spec override entry
    rw [List.map_cons, List.mapM_cons, ← hanswer, runEntries_cons]
    rw [← hanswer] at hentered
    rcases hsettle : l.settle override entry with ⟨entered, e | o⟩
    · rw [hsettle] at hentered
      exact ⟨hentered, rfl⟩
    · rw [hsettle] at hentered
      obtain ⟨hrest, hanswers⟩ := ih entered
      rw [hentered.image] at hrest hanswers
      rw [← hanswers]
      dsimp only
      rcases hrun : entered.runEntries override rest with ⟨final, e | os⟩
      · rw [hrun] at hrest
        exact ⟨hentered.trans hrest, rfl⟩
      · rw [hrun] at hrest
        exact ⟨hentered.trans hrest, rfl⟩

/-- Nothing behind an entry that is refused makes a difference to the ledger or its log. -/
theorem runEntries_of_refused {override : Option (List Datum)}
    {before : List (Except Record.Error Record)} {bad : Except Record.Error Record} {e : Error}
    (l : Ledger) (hbad : settled (override.or l.image) bad = .error e)
    (rest rest' : List (Except Record.Error Record)) :
    l.runEntries override (before ++ bad :: rest) =
      l.runEntries override (before ++ bad :: rest') := by
  induction before generalizing l with
  | nil =>
    obtain ⟨-, hanswer⟩ := l.settle_spec override bad
    rw [hbad] at hanswer
    rw [List.nil_append, List.nil_append, runEntries_cons, runEntries_cons]
    generalize l.settle override bad = ended at hanswer
    obtain ⟨entered, answer⟩ := ended
    obtain rfl : answer = .error e := hanswer
    rfl
  | cons entry before ih =>
    obtain ⟨hentered, -⟩ := l.settle_spec override entry
    rw [List.cons_append, List.cons_append, runEntries_cons, runEntries_cons]
    generalize l.settle override entry = ended at hentered
    obtain ⟨entered, answer⟩ := ended
    cases answer with
    | error e => rfl
    | ok o =>
      have himage : entered.image = l.image := hentered.image
      dsimp only
      rw [ih entered (by rw [himage]; exact hbad)]

/-- Trying records is carrying out entries that are all records. -/
lemma runSuite_eq_runEntries (l : Ledger) (override : Option (List Datum))
    (records : List Record) :
    l.runSuite override records = l.runEntries override (records.map .ok) := by
  induction records generalizing l with
  | nil => rfl
  | cons record records ih =>
    simp only [runSuite, List.map_cons, runEntries, ih]

/-! ### Requests -/

namespace Request

/-- The request is one to try something, and not just to tell what is there. -/
def tries : Request → Bool
  | .record _ _ | .suite _ _ | .file _ _ => true
  | .summary | .report | .results => false

/-- The image on which a request wants its records tried, if not on that of the ledger. -/
def override : Request → Option (List Datum)
  | .record override _ | .suite override _ | .file override _ => override
  | .summary | .report | .results => none

/-- The entries that a request is about, if they can be read. -/
def entries : Request → Except Text.Overflow (List (Except Record.Error Record))
  | .record _ r => .ok [.ok r]
  | .suite _ rs => .ok (rs.map .ok)
  | .file _ t => Record.scan t
  | .summary | .report | .results => .ok []

/-- The outcomes that a request produces in a ledger with the given image: those of its entries up
to the first that is refused, and none if the entries cannot be read. -/
def outcomes (request : Request) (image : Option (List Datum)) : List Outcome :=
  match request.entries with
  | .error _ => []
  | .ok entries => leadingValues (entries.map (settled (request.override.or image)))

/-- The outcomes of entries that can be read. -/
lemma outcomes_of_entries {request : Request} {entries : List (Except Record.Error Record)}
    (h : request.entries = .ok entries) (image : Option (List Datum)) :
    request.outcomes image = leadingValues (entries.map (settled (request.override.or image))) := by
  unfold outcomes
  rw [h]

/-- Every outcome is what comes of an entry. -/
lemma exists_settled_of_mem_outcomes {request : Request} {image : Option (List Datum)} {o : Outcome}
    (h : o ∈ request.outcomes image) :
    ∃ entry, settled (request.override.or image) entry = .ok o := by
  unfold outcomes at h
  split at h
  · cases h
  · obtain ⟨entry, -, hentry⟩ := List.mem_map.mp (mem_of_mem_leadingValues h)
    exact ⟨entry, hentry⟩

end Request

/-- The outcomes that a reply tells. -/
def Reply.outcomesTold : Reply → List Outcome
  | .outcome o => [o]
  | .outcomes os => os
  | .summary _ | .report _ => []

/-- A request does to the ledger what its entries do. -/
lemma handle_fst (l : Ledger) {request : Request} {entries : List (Except Record.Error Record)}
    (h : request.entries = .ok entries) :
    (l.handle request).1 = (l.runEntries request.override entries).1 := by
  cases request with
  | record override record =>
    obtain rfl := Except.ok.inj h
    change (l.runRecord override record).1 = (l.runEntries override [.ok record]).1
    rw [runEntries_cons, settle]
    rcases l.runRecord override record with ⟨after, e | o⟩ <;> rfl
  | suite override records =>
    obtain rfl := Except.ok.inj h
    change (l.runSuite override records).1 = _
    rw [runSuite_eq_runEntries]
    rfl
  | file override t =>
    change Record.scan t = .ok entries at h
    change (l.runFile override t).1 = _
    unfold runFile
    rw [h]
    rfl
  | _ =>
    obtain rfl := Except.ok.inj h
    rfl

/-- It is answered with the outcomes of its entries, or refused. -/
lemma handle_snd (l : Ledger) {request : Request} {entries : List (Except Record.Error Record)}
    (htries : request.tries = true) (h : request.entries = .ok entries) :
    (l.handle request).2.map Reply.outcomesTold = (l.runEntries request.override entries).2 := by
  cases request with
  | record override record =>
    obtain rfl := Except.ok.inj h
    change ((l.runRecord override record).2.map Reply.outcome).map Reply.outcomesTold =
      (l.runEntries override [.ok record]).2
    rw [runEntries_cons, settle]
    rcases l.runRecord override record with ⟨after, e | o⟩ <;> rfl
  | suite override records =>
    obtain rfl := Except.ok.inj h
    change ((l.runSuite override records).2.map Reply.outcomes).map Reply.outcomesTold =
      (l.runEntries override (records.map .ok)).2
    rw [runSuite_eq_runEntries]
    rcases (l.runEntries override (records.map .ok)).2 with e | os <;> rfl
  | file override t =>
    change Record.scan t = .ok entries at h
    change ((l.runFile override t).2.map Reply.outcomes).map Reply.outcomesTold =
      (l.runEntries override entries).2
    unfold runFile
    rw [h]
    dsimp only
    rcases (l.runEntries override entries).2 with e | os <;> rfl
  | _ => cases htries

/-- Only the entries of a test file may be such that they cannot be read. Then the file is refused,
and nothing of it enters the ledger. -/
lemma handle_of_unreadable (l : Ledger) {request : Request} {o : Text.Overflow}
    (h : request.entries = .error o) : l.handle request = (l, .error (.overflow o)) := by
  cases request with
  | file override t =>
    change Record.scan t = .error o at h
    unfold handle runFile
    dsimp only
    rw [h]
    rfl
  | _ => cases h

/-- A request that does not try anything changes nothing. -/
lemma handle_of_not_tries (l : Ledger) {request : Request} (h : request.tries = false) :
    (l.handle request).1 = l := by
  cases request with
  | summary => rfl
  | report => rfl
  | results => rfl
  | _ => cases h

/-- The outcomes of a request enter the ledger. -/
theorem extends_handle (l : Ledger) (request : Request) :
    Extends l (request.outcomes l.image) (l.handle request).1 := by
  cases hentries : request.entries with
  | error o =>
    rw [l.handle_of_unreadable hentries]
    unfold Request.outcomes
    rw [hentries]
    exact .refl l
  | ok entries =>
    rw [Request.outcomes_of_entries hentries, l.handle_fst hentries]
    exact (l.runEntries_spec request.override entries).1

/-- The outcomes of a session enter the ledger, request by request. -/
theorem extends_session (l : Ledger) (requests : List Request) :
    Extends l (requests.flatMap (·.outcomes l.image)) (l.session requests) := by
  induction requests generalizing l with
  | nil => exact .refl l
  | cons request requests ih =>
    have hfirst := l.extends_handle request
    have hrest := ih (l.handle request).1
    rw [hfirst.image] at hrest
    exact hfirst.trans hrest

/-- What a request to try something can come to. -/
inductive TrialCases (l : Ledger) (request : Request) : Ledger × Except Error Reply → Prop where
  /-- Every entry has its outcome. -/
  | completed (after : Ledger) (reply : Reply) (entries : List (Except Record.Error Record))
      (read : request.entries = .ok entries)
      (settled : List.Forall₂
        (fun entry o => settled (request.override.or l.image) entry = .ok o)
        entries (request.outcomes l.image))
      (told : reply.outcomesTold = request.outcomes l.image)
      (results : after.results = l.results ++ request.outcomes l.image) :
      TrialCases l request (after, .ok reply)
  /-- An entry is refused. The entries before it have their outcomes, and those behind it could be
  any. -/
  | aborted (after : Ledger) (before : List (Except Record.Error Record))
      (bad : Except Record.Error Record) (rest : List (Except Record.Error Record)) (e : Error)
      (split : request.entries = .ok (before ++ bad :: rest))
      (settled : List.Forall₂
        (fun entry o => settled (request.override.or l.image) entry = .ok o)
        before (request.outcomes l.image))
      (refused : Batch.settled (request.override.or l.image) bad = .error e)
      (results : after.results = l.results ++ request.outcomes l.image)
      (alone : ∀ others, (l.runEntries request.override (before ++ bad :: others)).1 = after) :
      TrialCases l request (after, .error e)
  /-- The entries cannot be read, and the ledger stays as it is. -/
  | unreadable (o : Text.Overflow) (unread : request.entries = .error o) :
      TrialCases l request (l, .error (.overflow o))

/-- What it comes to is one of the cases. -/
theorem trial_cases (l : Ledger) {request : Request} (h : request.tries = true) :
    TrialCases l request (l.handle request) := by
  cases hread : request.entries with
  | error o =>
    rw [l.handle_of_unreadable hread]
    exact .unreadable o hread
  | ok entries =>
    have hanswer := l.handle_snd h hread
    have hafter := l.handle_fst hread
    have hresults := (l.extends_handle request).results
    rw [(l.runEntries_spec request.override entries).2] at hanswer
    generalize l.handle request = ended at hanswer hafter hresults
    obtain ⟨after, answer⟩ := ended
    dsimp only at hanswer hafter hresults
    cases answer with
    | ok reply =>
      have hvalues := mapM_id_eq_ok_iff.mp hanswer.symm
      have htold : reply.outcomesTold = request.outcomes l.image := by
        rw [Request.outcomes_of_entries hread, hvalues, leadingValues_map_ok]
      rw [htold] at hvalues
      exact .completed after reply entries hread (forall₂_of_map_eq hvalues) htold hresults
    | error e =>
      obtain ⟨values, causes, hsplit, hvalues⟩ := mapM_id_eq_error_iff.mp hanswer.symm
      obtain ⟨before, behind, rfl, rfl, hbehind⟩ := List.map_eq_append_iff.mp hsplit
      obtain ⟨bad, rest, rfl, hbad, -⟩ := List.map_eq_cons_iff.mp hbehind
      obtain ⟨os, hos⟩ := exists_map_ok hvalues
      have houtcomes : request.outcomes l.image = os := by
        rw [Request.outcomes_of_entries hread, hsplit, hos, leadingValues_append]
        exact List.append_nil os
      rw [houtcomes] at hresults
      refine .aborted after before bad rest e hread ?_ hbad ?_ ?_
      · rw [houtcomes]
        exact forall₂_of_map_eq hos
      · rw [houtcomes]
        exact hresults
      · intro others
        rw [runEntries_of_refused l hbad others rest]
        exact hafter.symm

end Ledger

end Batch

end LittleMan
