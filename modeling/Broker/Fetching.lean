import Broker.Downloads
import Broker.Racing

/-!
# Fetching assets

The bytes of an asset are those of the stream that wins the race of the addresses of its
host, read up to a limit (`racePinnedFetch`). They are returned exactly when the race has a
winner, whose body is complete and within the limit; and every stream that the race has
opened is closed, once, however the fetch ends (`fetch_correct`).
-/

namespace Broker

open Py

/-! ## Streams -/

/-- What the next step of reading the body of a stream yields. -/
inductive StreamStep
  | chunk (chunk : Chunk)
  | finished
  /-- An `HTTPError`. -/
  | httpError
  /-- Another exception. -/
  | raised (error : PyError)

/-- A stream that is open: its headers have been read, and its body has not. -/
structure Stream where
  header : String → Option String
  body : ℕ → StreamStep

/-- The loop over the body, from the given step on, as far as the limit allows. -/
def readBody (maxBytes : ℤ) (body : ℕ → StreamStep) (index received : ℕ) (chunks : List (List UInt8)) :
    Except PyError (Option (List UInt8)) :=
  match body index with
  | .finished => .ok (some chunks.flatten)
  | .httpError => .ok none
  | .raised error => .error error
  | .chunk chunk =>
    if maxBytes < received + chunk.bytes.length then .ok none
    else readBody maxBytes body (index + 1) (received + chunk.bytes.length) (chunks ++ [chunk.bytes])
termination_by (maxBytes + 1 - received).toNat
decreasing_by
  have hpos := List.length_pos_of_ne_nil chunk.ne_nil
  omega

/-- The length that the stream declares is above the limit. -/
def Stream.tooLong (maxBytes : ℤ) (stream : Stream) : Bool :=
  ((stream.header "content-length").bind int).any (maxBytes < ·)

/-- The body of a stream, with its type, unless it is too long or is cut off. -/
def readStream (maxBytes : ℤ) (stream : Stream) : Except PyError (Option (List UInt8 × Option String)) :=
  if stream.tooLong maxBytes then .ok none
  else do
    let body ← readBody maxBytes stream.body 0 0 []
    return body.map fun bytes => (bytes, stream.header "content-type")

/-! ## Fetches -/

/-- The connections to the URLs that a request is pinned to. -/
structure Connections where
  race : Race PyError
  /-- The stream that an attempt opens, if it does. -/
  stream : ℕ → Stream

/-- What a fetch does. -/
structure Fetched where
  /-- The attempts whose streams are closed, in this order. -/
  closed : List ℕ
  result : Except PyError (Option (List UInt8 × Option String))

/-- `_race_pinned_fetch`. -/
def racePinnedFetch (maxBytes : ℤ) (connections : Connections) : Fetched :=
  match connections.race.result with
  | .error error => ⟨connections.race.closed, .error error⟩
  | .ok none => ⟨connections.race.closed, .ok none⟩
  | .ok (some winner) =>
    ⟨connections.race.closed ++ [winner], readStream maxBytes (connections.stream winner)⟩

/-! ## Bodies -/

/-- The body from the index on: these chunks, and then its end. -/
def Yields (body : ℕ → StreamStep) (index : ℕ) : List Chunk → Prop
  | [] => body index = .finished
  | chunk :: chunks => body index = .chunk chunk ∧ Yields body (index + 1) chunks

/-- The bytes of chunks. -/
def Chunk.flatten (chunks : List Chunk) : List UInt8 := chunks.flatMap Chunk.bytes

theorem Chunk.flatten_nil : Chunk.flatten [] = [] := List.flatMap_nil

theorem Chunk.flatten_cons (chunk : Chunk) (chunks : List Chunk) :
    Chunk.flatten (chunk :: chunks) = chunk.bytes ++ Chunk.flatten chunks := List.flatMap_cons

section Yielded

variable {body : ℕ → StreamStep} {index : ℕ} {chunks : List Chunk}

theorem yields_of_finished (h : body index = .finished) : Yields body index chunks ↔ chunks = [] := by
  cases chunks with
  | nil => exact iff_of_true h rfl
  | cons chunk chunks =>
    refine iff_of_false (fun hyields => ?_) (List.cons_ne_nil chunk chunks)
    cases h.symm.trans hyields.1

theorem yields_of_chunk {chunk : Chunk} (h : body index = .chunk chunk) :
    Yields body index chunks ↔ ∃ rest, chunks = chunk :: rest ∧ Yields body (index + 1) rest := by
  cases chunks with
  | nil =>
    refine iff_of_false (fun hyields => ?_) ?_
    · cases h.symm.trans hyields
    · rintro ⟨rest, hrest, -⟩
      cases hrest
  | cons chunk' chunks =>
    constructor
    · intro hyields
      obtain rfl := StreamStep.chunk.inj (h.symm.trans hyields.1)
      exact ⟨chunks, rfl, hyields.2⟩
    · rintro ⟨rest, hrest, hyields⟩
      cases hrest
      exact ⟨h, hyields⟩

/-- A step that fails ends no body. -/
theorem not_yields (hfinished : body index ≠ .finished) (hchunk : ∀ chunk, body index ≠ .chunk chunk) :
    ¬Yields body index chunks := by
  intro hyields
  cases chunks with
  | nil => exact hfinished hyields
  | cons chunk chunks => exact hchunk chunk hyields.1

end Yielded

/-- What is read is all of a body that is within the limit, unless it is empty. -/
theorem readBody_eq_some_iff {maxBytes : ℤ} {body : ℕ → StreamStep} {index received : ℕ}
    {read : List (List UInt8)} {bytes : List UInt8} :
    readBody maxBytes body index received read = .ok (some bytes) ↔
      ∃ chunks, Yields body index chunks ∧ bytes = read.flatten ++ Chunk.flatten chunks ∧
        (chunks ≠ [] → (received + (Chunk.flatten chunks).length : ℤ) ≤ maxBytes) := by
  induction index, received, read using readBody.induct maxBytes body with
  | case1 index received read hstep =>
    rw [readBody, hstep]
    constructor
    · intro h
      refine ⟨[], hstep, ?_, fun hne => absurd rfl hne⟩
      rw [Chunk.flatten_nil, List.append_nil]
      exact (Option.some.inj (Except.ok.inj h)).symm
    · rintro ⟨chunks, hyields, rfl, -⟩
      obtain rfl := (yields_of_finished hstep).1 hyields
      dsimp only
      rw [Chunk.flatten_nil, List.append_nil]
  | case2 index received read hstep =>
    rw [readBody, hstep]
    refine iff_of_false (fun h => nomatch h) ?_
    rintro ⟨chunks, hyields, -⟩
    exact not_yields (by simp [hstep]) (by simp [hstep]) hyields
  | case3 index received read error hstep =>
    rw [readBody, hstep]
    refine iff_of_false (fun h => nomatch h) ?_
    rintro ⟨chunks, hyields, -⟩
    exact not_yields (by simp [hstep]) (by simp [hstep]) hyields
  | case4 index received read chunk hstep hlarge =>
    rw [readBody, hstep]
    dsimp only
    rw [if_pos hlarge]
    refine iff_of_false (fun h => nomatch h) ?_
    rintro ⟨chunks, hyields, -, hbound⟩
    obtain ⟨rest, rfl, -⟩ := (yields_of_chunk hstep).1 hyields
    have hle := hbound (List.cons_ne_nil _ _)
    rw [Chunk.flatten_cons, List.length_append] at hle
    push_cast at hle
    omega
  | case5 index received read chunk hstep hfits ih =>
    rw [readBody, hstep]
    dsimp only
    rw [if_neg hfits]
    refine Iff.trans ih ?_
    constructor
    · rintro ⟨chunks, hyields, rfl, hbound⟩
      refine ⟨chunk :: chunks, ⟨hstep, hyields⟩, ?_, fun _ => ?_⟩
      · rw [Chunk.flatten_cons, List.flatten_append, List.flatten_singleton, List.append_assoc]
      · rw [Chunk.flatten_cons, List.length_append]
        rcases eq_or_ne chunks [] with rfl | hne
        · rw [Chunk.flatten_nil, List.length_nil]
          omega
        · have hle := hbound hne
          push_cast at hle ⊢
          omega
    · rintro ⟨chunks, hyields, rfl, hbound⟩
      obtain ⟨rest, rfl, hrest⟩ := (yields_of_chunk hstep).1 hyields
      refine ⟨rest, hrest, ?_, fun _ => ?_⟩
      · rw [Chunk.flatten_cons, List.flatten_append, List.flatten_singleton, List.append_assoc]
      · have hle := hbound (List.cons_ne_nil _ _)
        rw [Chunk.flatten_cons, List.length_append] at hle
        push_cast at hle ⊢
        omega

/-- The stream has the body and the type, and nothing of it is above the limit. -/
def Stream.Holds (maxBytes : ℤ) (stream : Stream) (bytes : List UInt8) (contentType : Option String) :
    Prop :=
  ∃ chunks, Yields stream.body 0 chunks ∧ bytes = Chunk.flatten chunks ∧
    (chunks ≠ [] → (bytes.length : ℤ) ≤ maxBytes) ∧ stream.tooLong maxBytes = false ∧
    contentType = stream.header "content-type"

theorem readStream_eq_some_iff {maxBytes : ℤ} {stream : Stream} {bytes : List UInt8}
    {contentType : Option String} :
    readStream maxBytes stream = .ok (some (bytes, contentType)) ↔
      stream.Holds maxBytes bytes contentType := by
  rw [readStream, Stream.Holds]
  cases htooLong : stream.tooLong maxBytes with
  | true =>
    rw [if_pos rfl]
    exact iff_of_false (fun h => nomatch h) fun ⟨_, _, _, _, h, _⟩ => nomatch h
  | false =>
    rw [if_neg Bool.false_ne_true]
    have hread := @readBody_eq_some_iff maxBytes stream.body 0 0 []
    simp only [List.flatten_nil, List.nil_append, Nat.cast_zero, zero_add] at hread
    constructor
    · intro h
      cases hbody : readBody maxBytes stream.body 0 0 [] with
      | error e =>
        rw [hbody] at h
        cases h
      | ok body =>
        rw [hbody] at h
        cases body with
        | none => cases h
        | some bytes' =>
          cases h
          obtain ⟨chunks, hyields, hbytes, hbound⟩ := hread.1 hbody
          exact ⟨chunks, hyields, hbytes, hbytes ▸ hbound, rfl, rfl⟩
    · rintro ⟨chunks, hyields, hbytes, hbound, -, rfl⟩
      rw [hread.2 ⟨chunks, hyields, hbytes, hbytes ▸ hbound⟩]
      rfl

/-- An attempt that wins has an acceptable response. -/
theorem Race.Wins.acceptable {race : Race PyError} {i : ℕ} (h : race.Wins i) :
    race.Acceptable i ∧ i < race.pinnedUrls := by
  obtain ⟨pre, batch, post, hbatches, -, hi, hacceptable, -⟩ := h
  refine ⟨hacceptable, race.lt batch ?_ i hi⟩
  rw [hbatches]
  exact List.mem_append_right pre List.mem_cons_self

theorem Race.result_eq_some_iff_wins (race : Race PyError) (i : ℕ) :
    race.result = .ok (some i) ↔ race.Wins i :=
  (race.result_eq_some_iff i).trans ((Race.looped_final race).winner i)

section Winner

variable {maxBytes : ℤ} {connections : Connections}

theorem racePinnedFetch_of_winner {winner : ℕ} (h : connections.race.result = .ok (some winner)) :
    racePinnedFetch maxBytes connections =
      ⟨connections.race.closed ++ [winner], readStream maxBytes (connections.stream winner)⟩ := by
  rw [racePinnedFetch, h]

/-- Where no attempt wins, nothing is read. -/
theorem racePinnedFetch_of_lost (h : ∀ winner, connections.race.result ≠ .ok (some winner)) :
    (racePinnedFetch maxBytes connections).closed = connections.race.closed ∧
      ∀ fetched, (racePinnedFetch maxBytes connections).result ≠ .ok (some fetched) := by
  rw [racePinnedFetch]
  cases hresult : connections.race.result with
  | error error => exact ⟨rfl, fun fetched hfetched => nomatch hfetched⟩
  | ok winner =>
    cases winner with
    | none => exact ⟨rfl, fun fetched hfetched => nomatch hfetched⟩
    | some winner => exact absurd hresult (h winner)

/-- What a fetch returns is read of the attempt that wins. -/
theorem fetch_eq_some_iff {bytes : List UInt8} {contentType : Option String} :
    (racePinnedFetch maxBytes connections).result = .ok (some (bytes, contentType)) ↔
      ∃ winner, connections.race.Wins winner ∧
        (connections.stream winner).Holds maxBytes bytes contentType := by
  by_cases hwinner : ∃ winner, connections.race.result = .ok (some winner)
  · obtain ⟨winner, hresult⟩ := hwinner
    rw [racePinnedFetch_of_winner hresult, readStream_eq_some_iff]
    constructor
    · exact fun h => ⟨winner, (Race.result_eq_some_iff_wins _ _).1 hresult, h⟩
    · rintro ⟨winner', hwins, h⟩
      rw [← Race.result_eq_some_iff_wins, hresult] at hwins
      obtain rfl := Option.some.inj (Except.ok.inj hwins)
      exact h
  · refine iff_of_false ((racePinnedFetch_of_lost fun winner h => hwinner ⟨winner, h⟩).2 _) ?_
    rintro ⟨winner, hwins, -⟩
    exact hwinner ⟨winner, (Race.result_eq_some_iff_wins _ _).2 hwins⟩

theorem nodup_closed_of_fetch : (racePinnedFetch maxBytes connections).closed.Nodup := by
  have hnodup : connections.race.closed.Nodup := List.nodup_range.filter _
  by_cases hwinner : ∃ winner, connections.race.result = .ok (some winner)
  · obtain ⟨winner, hresult⟩ := hwinner
    rw [racePinnedFetch_of_winner hresult]
    refine List.nodup_append.2 ⟨hnodup, List.nodup_singleton winner, fun i hi j hj hij => ?_⟩
    -- The race leaves the winner open.
    rw [Race.mem_closed_iff, hresult, hij, List.mem_singleton.1 hj] at hi
    exact hi.2.2 rfl
  · rw [(racePinnedFetch_of_lost fun winner h => hwinner ⟨winner, h⟩).1]
    exact hnodup

theorem mem_closed_of_fetch {i : ℕ} : i ∈ (racePinnedFetch maxBytes connections).closed ↔
    i < connections.race.pinnedUrls ∧ connections.race.opens i = true := by
  by_cases hwinner : ∃ winner, connections.race.result = .ok (some winner)
  · obtain ⟨winner, hresult⟩ := hwinner
    obtain ⟨hacceptable, hlt⟩ := ((Race.result_eq_some_iff_wins _ _).1 hresult).acceptable
    rw [racePinnedFetch_of_winner hresult, List.mem_append, List.mem_singleton, Race.mem_closed_iff, hresult]
    by_cases hi : i = winner
    · subst hi
      exact iff_of_true (.inr rfl) ⟨hlt, connections.race.opens_of_acceptable hacceptable⟩
    · rw [or_iff_left hi, and_iff_left fun h => hi (Option.some.inj (Except.ok.inj h)).symm]
  · rw [(racePinnedFetch_of_lost fun winner h => hwinner ⟨winner, h⟩).1, Race.mem_closed_iff]
    exact and_congr_right' (and_iff_left fun h => hwinner ⟨i, h⟩)

end Winner

/-- A fetch returns bytes exactly if an attempt wins the race, and they are all of its body, within
    the limit. It closes every stream that was opened, once, and no other. -/
theorem fetch_correct (maxBytes : ℤ) (connections : Connections) :
    (∀ bytes contentType,
      (racePinnedFetch maxBytes connections).result = .ok (some (bytes, contentType)) ↔
        ∃ winner, connections.race.Wins winner ∧
          (connections.stream winner).Holds maxBytes bytes contentType) ∧
      (racePinnedFetch maxBytes connections).closed.Nodup ∧
      ∀ i, i ∈ (racePinnedFetch maxBytes connections).closed ↔
        i < connections.race.pinnedUrls ∧ connections.race.opens i = true :=
  ⟨fun _ _ => fetch_eq_some_iff, nodup_closed_of_fetch, fun _ => mem_closed_of_fetch⟩

/-! ## A sample fetch -/

/-- The first attempt fails, and then one is refused and two answer well. -/
def Sample.race : Race PyError where
  pinnedUrls := 4
  outcome
    | 0 => some .transportError
    | 1 => some (.response 503)
    | 2 => some (.response 200)
    | 3 => some (.response 206)
    | _ => none
  batches := [[0], [3, 1, 2]]
  lt := by decide
  done := by decide
  nodup := by decide

/-- The connections of that race: the body of an attempt is its number. -/
def Sample.connections : Connections where
  race := Sample.race
  stream attempt :=
    { header := fun name => if name = "content-type" then some "image/png" else none
      body := fun
        | 0 => .chunk ⟨[UInt8.ofNat attempt], List.cons_ne_nil _ _⟩
        | _ => .finished }

theorem Sample.race_wins : Sample.race.Wins 2 := by
  refine ⟨[[0]], [3, 1, 2], [], rfl, ?_, ?_, ⟨200, by decide, rfl⟩, ?_⟩
  · simp [Race.Quiet, Race.Acceptable, Race.Bad, Race.Fails, Sample.race]
  · decide
  · simp only [Race.Acceptable, Sample.race, List.mem_cons, List.not_mem_nil, or_false]
    rintro j (rfl | rfl | rfl) ⟨statusCode, hlt, houtcome⟩
    · decide
    · cases houtcome
      omega
    · exact le_rfl

/-- The streams that lose are closed, and then the one that was read. -/
example : racePinnedFetch 10 Sample.connections =
    ⟨[1, 3, 2], .ok (some ([2], some "image/png"))⟩ := by
  have hwinner : Sample.connections.race.result = .ok (some 2) :=
    (Race.result_eq_some_iff_wins _ 2).2 Sample.race_wins
  have hclosed : Sample.connections.race.closed = [1, 3] := by
    rw [Race.result_eq_some_iff] at hwinner
    rw [Race.closed, hwinner]
    decide
  rw [racePinnedFetch_of_winner hwinner, hclosed]
  have hread : readStream 10 (Sample.connections.stream 2) = .ok (some ([2], some "image/png")) :=
    readStream_eq_some_iff.2 ⟨[⟨[2], List.cons_ne_nil _ _⟩], ⟨rfl, rfl⟩, rfl, fun _ => by decide, rfl, rfl⟩
  rw [hread]
  rfl

end Broker
