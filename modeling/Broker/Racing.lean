import Mathlib.Data.List.Nodup
import Mathlib.Data.List.Sort

/-!
# Racing connections

The addresses of an asset host are connected to concurrently, under one deadline
(`_race_pinned_connection`). The attempts complete in batches, and the loop goes on
until a batch decides the race: by an acceptable response, a bad status or an error
that is no failure of the transport.

The result is that of the first batch that decides, whatever order its attempts are
looked at in, and all streams but the one that is returned are closed, once
(`race_correct`).
-/

namespace Broker

variable {ε : Type}

/-- How an attempt ends, when it does: with a stream whose response has the status, a
    failure of the transport, or another error. -/
inductive Outcome (ε : Type)
  | response (statusCode : ℕ)
  | transportError
  | unexpectedError (error : ε)
  deriving DecidableEq, Repr

/-- The attempts at the pinned URLs. -/
structure Race (ε : Type) where
  /-- The number of pinned URLs. -/
  pinnedUrls : ℕ
  /-- The outcome of the task of an attempt; none when it is cancelled without one. -/
  outcome : ℕ → Option (Outcome ε)
  /-- The sets of tasks that `asyncio.wait` returns before the deadline, in the order that
      they are iterated in. -/
  batches : List (List ℕ)
  lt : ∀ batch ∈ batches, ∀ i ∈ batch, i < pinnedUrls
  done : ∀ batch ∈ batches, ∀ i ∈ batch, (outcome i).isSome = true
  nodup : batches.flatten.Nodup

namespace Race

/-! ## The race -/

/-- What the loop has found. -/
structure State (ε : Type) where
  pending : List ℕ
  winner : Option ℕ
  giveUp : Bool
  unexpected : Option ε

/-- What the tasks of a batch are found to be. -/
structure Scan (ε : Type) where
  accepted : List ℕ
  sawReject : Bool
  unexpected : Option ε

/-- A task that is done is looked at. -/
def Scan.visit (race : Race ε) (scan : Scan ε) (task : ℕ) : Scan ε :=
  match race.outcome task with
  | some (.response statusCode) =>
    if statusCode < 400 then { scan with accepted := scan.accepted ++ [task] }
    else { scan with sawReject := true }
  | some (.unexpectedError error) =>
    if scan.unexpected.isNone then { scan with unexpected := some error } else scan
  | some .transportError | none => scan

variable (race : Race ε)

/-- A batch is processed: the lowest of its acceptable attempts wins. -/
def processBatch (state : State ε) (done : List ℕ) : State ε :=
  let scan := done.foldl (Scan.visit race) ⟨[], false, state.unexpected⟩
  { pending := state.pending.filter fun task => !(done.contains task)
    winner := (scan.accepted.mergeSort (· ≤ ·)).head?
    giveUp := scan.accepted.isEmpty && scan.sawReject
    unexpected := scan.unexpected }

/-- The loop over the batches, until the deadline. -/
def loop (state : State ε) : List (List ℕ) → State ε
  | [] => state
  | done :: batches =>
    if state.pending.isEmpty || state.winner.isSome || state.giveUp || state.unexpected.isSome then
      state
    else loop (race.processBatch state done) batches

/-- The state that the loop is left in. -/
def final : State ε := race.loop ⟨List.range race.pinnedUrls, none, false, none⟩ race.batches

/-- `_race_pinned_connection`: the attempt whose stream is returned. -/
def result : Except ε (Option ℕ) :=
  match race.final.winner, race.final.unexpected with
  | none, some error => .error error
  | winner, _ => .ok winner

/-- The attempt opens a stream. -/
def opens (i : ℕ) : Bool :=
  match race.outcome i with
  | some (.response _) => true
  | _ => false

/-- The attempts whose streams are closed, in the order of the tasks. -/
def closed : List ℕ :=
  (List.range race.pinnedUrls).filter fun i => race.opens i && race.final.winner != some i

/-! ## What decides a race -/

/-- The attempt has a response with a status below 400. -/
def Acceptable (i : ℕ) : Prop := ∃ statusCode < 400, race.outcome i = some (.response statusCode)

/-- The attempt has a response with a status of 400 or above. -/
def Bad (i : ℕ) : Prop := ∃ statusCode, 400 ≤ statusCode ∧ race.outcome i = some (.response statusCode)

/-- The attempt fails with an error that is not of the transport. -/
def Fails (error : ε) (i : ℕ) : Prop := race.outcome i = some (.unexpectedError error)

/-- Nothing in the batch decides the race. -/
def Quiet (batch : List ℕ) : Prop :=
  ∀ i ∈ batch, ¬race.Acceptable i ∧ ¬race.Bad i ∧ ∀ error, ¬race.Fails error i

/-- The property holds of a batch, and no batch before it decides the race. -/
def Decided (batches : List (List ℕ)) (P : List ℕ → Prop) : Prop :=
  ∃ pre batch post, batches = pre ++ batch :: post ∧ (∀ b ∈ pre, race.Quiet b) ∧ P batch

/-- The attempt is the lowest acceptable one of the batch. -/
def Lowest (i : ℕ) (batch : List ℕ) : Prop :=
  i ∈ batch ∧ race.Acceptable i ∧ ∀ j ∈ batch, race.Acceptable j → i ≤ j

/-- The error is one of the batch, which has no acceptable attempt. -/
def Captures (error : ε) (batch : List ℕ) : Prop :=
  (∀ j ∈ batch, ¬race.Acceptable j) ∧ ∃ i ∈ batch, race.Fails error i

variable {race}

theorem decided_cons {batch : List ℕ} {batches : List (List ℕ)} {P : List ℕ → Prop} :
    race.Decided (batch :: batches) P ↔ P batch ∨ race.Quiet batch ∧ race.Decided batches P := by
  constructor
  · rintro ⟨pre, b, post, hsplit, hpre, hb⟩
    cases pre with
    | nil =>
      obtain ⟨rfl, -⟩ := List.cons.inj hsplit
      exact .inl hb
    | cons first pre =>
      obtain ⟨rfl, rfl⟩ := List.cons.inj hsplit
      exact .inr ⟨hpre batch List.mem_cons_self, pre, b, post, rfl,
        fun b' hb' => hpre b' (List.mem_cons_of_mem _ hb'), hb⟩
  · rintro (hb | ⟨hquiet, pre, b, post, rfl, hpre, hb⟩)
    · exact ⟨[], batch, batches, rfl, fun _ h => absurd h List.not_mem_nil, hb⟩
    · exact ⟨batch :: pre, b, post, rfl, List.forall_mem_cons.2 ⟨hquiet, hpre⟩, hb⟩

theorem not_quiet_of_lowest {i : ℕ} {batch : List ℕ} (h : race.Lowest i batch) : ¬race.Quiet batch :=
  fun hquiet => (hquiet i h.1).1 h.2.1

theorem not_quiet_of_captures {error : ε} {batch : List ℕ} (h : race.Captures error batch) :
    ¬race.Quiet batch := fun hquiet => by
  obtain ⟨-, i, hi, hfails⟩ := h
  exact (hquiet i hi).2.2 error hfails

/-! ## Batches -/

/-- What the loop over the tasks of a batch collects. -/
structure Scanned (race : Race ε) (done : List ℕ) (scan scan' : Scan ε) : Prop where
  accepted : ∀ i, i ∈ scan'.accepted ↔ i ∈ scan.accepted ∨ i ∈ done ∧ race.Acceptable i
  sawReject : scan'.sawReject = true ↔ scan.sawReject = true ∨ ∃ i ∈ done, race.Bad i
  captured : ∀ error, scan'.unexpected = some error →
    scan.unexpected = some error ∨ ∃ i ∈ done, race.Fails error i
  missed : scan'.unexpected = none → scan.unexpected = none ∧ ∀ i ∈ done, ∀ error, ¬race.Fails error i

theorem scanned_visit (scan : Scan ε) (task : ℕ) : Scanned race [task] scan (scan.visit race task) := by
  rw [Scan.visit]
  cases houtcome : race.outcome task with
  | none => constructor <;> simp [Acceptable, Bad, Fails, houtcome]
  | some outcome =>
    cases outcome with
    | transportError => constructor <;> simp [Acceptable, Bad, Fails, houtcome]
    | response statusCode =>
      have hacceptable : race.Acceptable task ↔ statusCode < 400 := by simp [Acceptable, houtcome]
      have hbad : race.Bad task ↔ ¬statusCode < 400 := by simp [Bad, houtcome]
      have hfails : ∀ error, ¬race.Fails error task := by simp [Fails, houtcome]
      have hmem : ∀ i, i = task ∧ race.Acceptable i ↔ i = task ∧ statusCode < 400 := fun i =>
        and_congr_right fun h => h ▸ hacceptable
      dsimp only
      split_ifs with hstatus
      · constructor <;> simp only [List.mem_append, List.mem_singleton, hmem] <;> simp [hbad, hfails, hstatus]
      · constructor <;> simp only [List.mem_singleton, hmem] <;> simp [hbad, hfails, hstatus]
    | unexpectedError error =>
      dsimp only
      cases hscan : scan.unexpected with
      | none => constructor <;> simp [Acceptable, Bad, Fails, houtcome, hscan]
      | some _ => constructor <;> simp [Acceptable, Bad, Fails, houtcome, hscan]

theorem Scanned.trans {done done' : List ℕ} {scan scan' scan'' : Scan ε}
    (h : Scanned race done scan scan') (h' : Scanned race done' scan' scan'') :
    Scanned race (done ++ done') scan scan'' where
  accepted i := by
    rw [h'.accepted, h.accepted, List.mem_append, or_and_right, or_assoc]
  sawReject := by
    rw [h'.sawReject, h.sawReject, or_assoc]
    simp only [List.mem_append, or_and_right, exists_or]
  captured error herror := by
    rcases h'.captured error herror with hscan | ⟨i, hi, hfails⟩
    · rcases h.captured error hscan with hscan | ⟨i, hi, hfails⟩
      · exact .inl hscan
      · exact .inr ⟨i, List.mem_append_left _ hi, hfails⟩
    · exact .inr ⟨i, List.mem_append_right _ hi, hfails⟩
  missed hnone := by
    obtain ⟨hscan', hdone'⟩ := h'.missed hnone
    obtain ⟨hscan, hdone⟩ := h.missed hscan'
    refine ⟨hscan, fun i hi => ?_⟩
    rcases List.mem_append.1 hi with hi | hi
    · exact hdone i hi
    · exact hdone' i hi

theorem scanned_foldl (done : List ℕ) (scan : Scan ε) :
    Scanned race done scan (done.foldl (Scan.visit race) scan) := by
  induction done generalizing scan with
  | nil => exact ⟨by simp, by simp, by simp, by simp⟩
  | cons task done ih => exact (scanned_visit scan task).trans (ih _)

/-- A state that goes on: nothing has decided the race. -/
structure State.Open (state : State ε) : Prop where
  winner : state.winner = none
  giveUp : state.giveUp = false
  unexpected : state.unexpected = none

/-- What is left of a batch. -/
structure Processed (race : Race ε) (batch : List ℕ) (state : State ε) : Prop where
  winner : ∀ i, state.winner = some i ↔ race.Lowest i batch
  lost : state.winner = none → ∀ i ∈ batch, ¬race.Acceptable i
  giveUp : state.giveUp = true ↔ (∀ i ∈ batch, ¬race.Acceptable i) ∧ ∃ i ∈ batch, race.Bad i
  captured : ∀ error, state.unexpected = some error → ∃ i ∈ batch, race.Fails error i
  missed : state.unexpected = none → ∀ i ∈ batch, ∀ error, ¬race.Fails error i

/-- The first of a sorted list is its lowest. -/
theorem head_mergeSort_iff {l : List ℕ} {i : ℕ} :
    (l.mergeSort (· ≤ ·)).head? = some i ↔ i ∈ l ∧ ∀ j ∈ l, i ≤ j := by
  have hsorted : (l.mergeSort (· ≤ ·)).Pairwise (· ≤ ·) := by
    have hpairwise := @List.pairwise_mergeSort ℕ (fun a b => decide (a ≤ b))
      (fun a b c => by simpa using le_trans) (fun a b => by simpa using le_total a b) l
    simpa using hpairwise
  have hmem : ∀ j, j ∈ l.mergeSort (· ≤ ·) ↔ j ∈ l := fun j => List.mem_mergeSort
  cases hl : l.mergeSort (· ≤ ·) with
  | nil =>
    rw [hl] at hmem
    constructor
    · exact fun h => nomatch h
    · exact fun h => absurd ((hmem i).2 h.1) List.not_mem_nil
  | cons k rest =>
    rw [hl] at hmem hsorted
    have hlowest : ∀ j ∈ l, k ≤ j := fun j hj =>
      (List.mem_cons.1 ((hmem j).2 hj)).elim (fun h => h ▸ le_rfl) (List.rel_of_pairwise_cons hsorted)
    rw [List.head?_cons, Option.some_inj]
    constructor
    · rintro rfl
      exact ⟨(hmem k).1 List.mem_cons_self, hlowest⟩
    · exact fun ⟨hi, hle⟩ => le_antisymm (hlowest i hi) (hle k ((hmem k).1 List.mem_cons_self))

theorem processed_processBatch {state : State ε} (hopen : state.Open) (batch : List ℕ) :
    Processed race batch (race.processBatch state batch) := by
  have hscanned := @scanned_foldl _ race batch ⟨[], false, state.unexpected⟩
  rw [hopen.unexpected] at hscanned
  have haccepted := hscanned.accepted
  simp only [List.not_mem_nil, false_or] at haccepted
  refine ⟨fun i => ?_, fun hlost i hi hacceptable => ?_, ?_, fun error herror => ?_, fun hnone => ?_⟩
  · rw [processBatch, hopen.unexpected, head_mergeSort_iff, Lowest]
    simp only [haccepted]
    grind
  · rw [processBatch, hopen.unexpected, List.head?_eq_none_iff] at hlost
    refine @List.not_mem_nil _ i ?_
    rw [← hlost, List.mem_mergeSort]
    exact (haccepted i).2 ⟨hi, hacceptable⟩
  · change ((batch.foldl (Scan.visit race) ⟨[], false, state.unexpected⟩).accepted.isEmpty &&
      (batch.foldl (Scan.visit race) ⟨[], false, state.unexpected⟩).sawReject) = true ↔ _
    rw [hopen.unexpected, Bool.and_eq_true, hscanned.sawReject, List.isEmpty_iff,
      List.eq_nil_iff_forall_not_mem]
    simp only [haccepted, not_and]
    exact and_congr_right fun _ => or_iff_right nofun
  · rw [processBatch, hopen.unexpected] at herror
    exact (hscanned.captured error herror).resolve_left nofun
  · rw [processBatch, hopen.unexpected] at hnone
    exact (hscanned.missed hnone).2

/-- A quiet batch leaves the race open. -/
theorem open_of_quiet {batch : List ℕ} {state : State ε} (h : Processed race batch state)
    (quiet : race.Quiet batch) : state.Open where
  winner := by
    cases hwinner : state.winner with
    | none => rfl
    | some i => exact absurd quiet (not_quiet_of_lowest ((h.winner i).1 hwinner))
  giveUp := by
    rw [← Bool.not_eq_true]
    intro hgiveUp
    obtain ⟨-, i, hi, hbad⟩ := h.giveUp.1 hgiveUp
    exact (quiet i hi).2.1 hbad
  unexpected := by
    cases hunexpected : state.unexpected with
    | none => rfl
    | some error =>
      obtain ⟨i, hi, hfails⟩ := h.captured error hunexpected
      exact absurd hfails ((quiet i hi).2.2 error)

theorem quiet_of_open {batch : List ℕ} {state : State ε} (h : Processed race batch state)
    (hopen : state.Open) : race.Quiet batch := by
  refine fun i hi => ⟨h.lost hopen.winner i hi, fun hbad => ?_, h.missed hopen.unexpected i hi⟩
  have hgiveUp := h.giveUp.2 ⟨h.lost hopen.winner, i, hi, hbad⟩
  rw [hopen.giveUp] at hgiveUp
  cases hgiveUp

/-! ## The loop -/

/-- The loop stops where the race is decided. -/
theorem loop_of_not_open {state : State ε} (h : ¬state.Open) (batches : List (List ℕ)) :
    race.loop state batches = state := by
  cases batches with
  | nil => rfl
  | cons batch batches =>
    rw [loop, if_pos]
    by_contra hgoes
    simp only [Bool.not_eq_true, Bool.or_eq_false_iff, Option.isSome_eq_false_iff,
      Option.isNone_iff_eq_none] at hgoes
    exact h ⟨hgoes.1.1.2, hgoes.1.2, hgoes.2⟩

theorem loop_of_open {state : State ε} (h : state.Open) (hpending : state.pending ≠ [])
    (batch : List ℕ) (batches : List (List ℕ)) :
    race.loop state (batch :: batches) = race.loop (race.processBatch state batch) batches := by
  rw [loop, if_neg]
  rw [h.winner, h.giveUp, h.unexpected]
  simpa using hpending

/-- What the loop is left with. -/
structure Looped (race : Race ε) (batches : List (List ℕ)) (state : State ε) : Prop where
  winner : ∀ i, state.winner = some i ↔ race.Decided batches (race.Lowest i)
  captured : state.winner = none → ∀ error, state.unexpected = some error →
    race.Decided batches (race.Captures error)
  missed : state.winner = none → state.unexpected = none →
    ∀ error, ¬race.Decided batches (race.Captures error)

/-- Without a task that is left, no batch decides the race. -/
theorem looped_of_exhausted {batches : List (List ℕ)} (h : ∀ batch ∈ batches, batch = [])
    {state : State ε} (hopen : state.Open) : Looped race batches state := by
  have hnone : ∀ P : List ℕ → Prop, ¬P [] → ¬race.Decided batches P := by
    rintro P hP ⟨pre, batch, post, rfl, -, hbatch⟩
    rw [h batch (List.mem_append_right _ List.mem_cons_self)] at hbatch
    exact hP hbatch
  have hcaptures : ∀ error, ¬race.Decided batches (race.Captures error) := fun error =>
    hnone _ fun ⟨_, i, hi, _⟩ => List.not_mem_nil hi
  refine ⟨fun i => ?_, fun _ error herror => ?_, fun _ _ => hcaptures⟩
  · rw [hopen.winner]
    exact iff_of_false nofun (hnone _ fun hlowest => List.not_mem_nil hlowest.1)
  · rw [hopen.unexpected] at herror
    cases herror

/-- The loop is left with what the first batch to decide the race is. The induction is on
    the batches, whose tasks are pending. -/
theorem looped_loop {batches : List (List ℕ)} {state : State ε} (hopen : state.Open)
    (hpending : ∀ batch ∈ batches, ∀ i ∈ batch, i ∈ state.pending) (hnodup : batches.flatten.Nodup) :
    Looped race batches (race.loop state batches) := by
  induction batches generalizing state with
  | nil => exact looped_of_exhausted (fun _ h => absurd h List.not_mem_nil) hopen
  | cons batch batches ih =>
    by_cases hleft : state.pending = []
    · rw [loop, hleft]
      refine looped_of_exhausted (fun b hb => List.eq_nil_iff_forall_not_mem.2 fun i hi => ?_) hopen
      have hmem := hpending b hb i hi
      rw [hleft] at hmem
      cases hmem
    rw [loop_of_open hopen hleft]
    have hprocessed := @processed_processBatch _ race _ hopen batch
    by_cases hquiet : race.Quiet batch
    · -- The tasks of the batches that are left stay pending.
      rw [List.flatten_cons, List.nodup_append] at hnodup
      obtain ⟨-, hrest, hdisjoint⟩ := hnodup
      have hlooped := ih (open_of_quiet hprocessed hquiet) (fun b hb i hi => ?_) hrest
      · have hskip : ∀ {P : List ℕ → Prop}, (P batch → ¬race.Quiet batch) →
            (race.Decided (batch :: batches) P ↔ race.Decided batches P) := fun hP => by
          rw [decided_cons]
          exact ⟨fun h => h.elim (fun hb => absurd hquiet (hP hb)) And.right, fun h => .inr ⟨hquiet, h⟩⟩
        refine ⟨fun i => ?_, fun hwinner error herror => ?_, fun hwinner hnone error => ?_⟩
        · rw [hlooped.winner, hskip not_quiet_of_lowest]
        · rw [hskip not_quiet_of_captures]
          exact hlooped.captured hwinner error herror
        · rw [hskip not_quiet_of_captures]
          exact hlooped.missed hwinner hnone error
      · refine List.mem_filter.2 ⟨hpending b (List.mem_cons_of_mem _ hb) i hi, ?_⟩
        rw [Bool.not_eq_true', ← Bool.not_eq_true, List.contains_iff_mem]
        exact fun hbatch => hdisjoint i hbatch i (List.mem_flatten_of_mem hb hi) rfl
    · have hclosed : ¬(race.processBatch state batch).Open := fun h =>
        hquiet (quiet_of_open hprocessed h)
      have hstop : ∀ {P : List ℕ → Prop}, race.Decided (batch :: batches) P ↔ P batch := fun {P} => by
        rw [decided_cons]
        exact or_iff_left fun h => hquiet h.1
      rw [loop_of_not_open hclosed]
      refine ⟨fun i => ?_, fun hwinner error herror => ?_, fun hwinner hnone error => ?_⟩
      · rw [hprocessed.winner, hstop]
      · rw [hstop]
        exact ⟨hprocessed.lost hwinner, hprocessed.captured error herror⟩
      · rw [hstop]
        rintro ⟨-, i, hi, hfails⟩
        exact hprocessed.missed hnone i hi error hfails

theorem looped_final (race : Race ε) : Looped race race.batches race.final :=
  looped_loop ⟨rfl, rfl, rfl⟩ (fun batch hbatch i hi => List.mem_range.2 (race.lt batch hbatch i hi))
    race.nodup

/-! ## Results -/

variable (race)

/-- The attempt wins: it is the lowest acceptable one of the first batch with one, and no
    batch before has a bad status or an unexpected error. -/
def Wins (i : ℕ) : Prop := race.Decided race.batches (race.Lowest i)

/-- The error is captured: it is in the first batch that decides the race, which has no
    acceptable attempt. -/
def Surfaces (error : ε) : Prop := race.Decided race.batches (race.Captures error)

theorem result_eq_some_iff (i : ℕ) : race.result = .ok (some i) ↔ race.final.winner = some i := by
  rw [result]
  cases race.final.winner with
  | none => cases race.final.unexpected <;> simp
  | some w => simp

theorem final_of_error {error : ε} (h : race.result = .error error) :
    race.final.winner = none ∧ race.final.unexpected = some error := by
  rw [result] at h
  cases hwinner : race.final.winner with
  | some w =>
    rw [hwinner] at h
    cases h
  | none =>
    rw [hwinner] at h
    cases hunexpected : race.final.unexpected with
    | none =>
      rw [hunexpected] at h
      cases h
    | some error' =>
      rw [hunexpected] at h
      exact ⟨rfl, congrArg some (Except.error.inj h)⟩

theorem final_of_none (h : race.result = .ok none) :
    race.final.winner = none ∧ race.final.unexpected = none := by
  rw [result] at h
  cases hwinner : race.final.winner with
  | some w =>
    rw [hwinner] at h
    cases h
  | none =>
    rw [hwinner] at h
    cases hunexpected : race.final.unexpected with
    | none => exact ⟨rfl, rfl⟩
    | some error =>
      rw [hunexpected] at h
      cases h

theorem opens_of_acceptable {i : ℕ} (h : race.Acceptable i) : race.opens i = true := by
  obtain ⟨statusCode, -, houtcome⟩ := h
  rw [opens, houtcome]

theorem mem_closed_iff (i : ℕ) :
    i ∈ race.closed ↔ i < race.pinnedUrls ∧ race.opens i = true ∧ race.result ≠ .ok (some i) := by
  rw [closed, List.mem_filter, List.mem_range, Bool.and_eq_true, bne_iff_ne, Ne, Ne,
    result_eq_some_iff]

/-- A race returns the winning attempt; without one it raises a captured error if there is
    any, and returns none otherwise. Every stream that is opened is closed, once, but that
    of the attempt that is returned, which is open and not closed. -/
theorem race_correct :
    (∀ i, race.result = .ok (some i) ↔ race.Wins i) ∧
      (∀ error, race.result = .error error → (∀ i, ¬race.Wins i) ∧ race.Surfaces error) ∧
      (race.result = .ok none → (∀ i, ¬race.Wins i) ∧ ∀ error, ¬race.Surfaces error) ∧
      (∀ i < race.pinnedUrls, race.opens i = true → race.result ≠ .ok (some i) →
        race.closed.count i = 1) ∧
      (∀ i ∈ race.closed, race.opens i = true) ∧
      ∀ i, race.result = .ok (some i) → race.opens i = true ∧ i ∉ race.closed := by
  have hlooped := looped_final race
  have hwins : ∀ i, race.result = .ok (some i) ↔ race.Wins i := fun i =>
    (race.result_eq_some_iff i).trans (hlooped.winner i)
  have hlost : race.final.winner = none → ∀ i, ¬race.Wins i := fun hnone i hwin => by
    rw [(hlooped.winner i).2 hwin] at hnone
    cases hnone
  refine ⟨hwins, fun error herror => ?_, fun hnone => ?_, fun i hi hopens hreturned => ?_,
    fun i hi => ((race.mem_closed_iff i).1 hi).2.1, fun i hi => ⟨?_, fun hclosed => ?_⟩⟩
  · obtain ⟨hwinner, hunexpected⟩ := race.final_of_error herror
    exact ⟨hlost hwinner, hlooped.captured hwinner error hunexpected⟩
  · obtain ⟨hwinner, hunexpected⟩ := race.final_of_none hnone
    exact ⟨hlost hwinner, hlooped.missed hwinner hunexpected⟩
  · have hnodup : race.closed.Nodup := List.nodup_range.filter _
    exact List.count_eq_one_of_mem hnodup ((race.mem_closed_iff i).2 ⟨hi, hopens, hreturned⟩)
  · obtain ⟨-, batch, -, -, -, -, hacceptable, -⟩ := (hwins i).1 hi
    exact race.opens_of_acceptable hacceptable
  · exact ((race.mem_closed_iff i).1 hclosed).2.2 hi

end Race

end Broker
