import Broker.Exchanges

/-!
# Transactions that fail

The broker when its store cannot always be loaded or saved, and when its process
may stop: a transaction that fails raises and leaves the store as it was, a read
that fails finds the initial state, and a process that stops loses its calls but
not its store (`faulty`).

An exchange burns its code and stores its pair in two transactions, so it is not
atomic: the pair of a burned code is stored if nothing comes in between that
ends the call, and only then (`exchange_atomic_iff`).
-/

namespace Broker

open Py Runs

variable (unicode : Unicode)

/-! ## Faults -/

/-- What goes wrong with a transaction: the store cannot be loaded, or not saved. -/
inductive Fault
  | load
  | save
  deriving DecidableEq

/-- An event that goes well, an event with a fault of the store, or the end of the
    process and the start of another one on the same store. -/
inductive Happening
  | event (e : Event)
  | fault (fault : Fault) (e : Event)
  | stop

/-- The exception of a transaction that fails, given the outcome it would have
    had: a transaction is saved only after its updater has returned. -/
def Fault.raised : Fault → Except PyError Unit → PyError
  | .save, .error e => e
  | _, _ => .osError

/-- The outcome of an updater, but for its result. -/
def outcome {α : Type} (updater : Updater α) (s : Store) : Except PyError Unit :=
  (update updater s).1.map fun _ => ()

/-- The checks of `verify_grant` before its transaction. -/
def AssetService.verifiesSignature (service : AssetService) (now : ℤ)
    (grantId expiresAt signature : Option String) : Bool :=
  truthyStr grantId && truthyStr expiresAt && truthyStr signature &&
    (Py.int (expiresAt.getD "")).any fun expiry =>
      now ≤ expiry && isAscii (signature.getD "").toList &&
        createSignature (grantId.getD "") expiry service.config.signing.assetSecret =
          signature.getD ""

namespace World

/-- The outcome of the transaction of an event, if it runs one. -/
def transaction (w : World) (e : Event) : Option (Except PyError Unit) :=
  let service := e.service
  match e.action with
  | .beginAuthorization call =>
    (w.signIns.get? call).map fun s =>
      outcome (s.service.beginAuthorizationUpdater e.now e.rand s.request s.session) w.store
  | .beginAuthorizationFromSession request session =>
    some (outcome (service.beginAuthorizationUpdater e.now e.rand request
      (service.signInSession request session)) w.store)
  | .beginSsoAuthorization startedAt request =>
    some (outcome (service.beginSsoAuthorizationUpdater startedAt e.now e.rand request) w.store)
  | .completeSsoAuthorization handoffState session =>
    some (outcome (service.completeSsoAuthorizationUpdater e.now e.rand handoffState session) w.store)
  | .consumePendingSsoState handoffState =>
    some (outcome (service.consumePendingSsoStateUpdater e.now handoffState) w.store)
  | .answerCallback _ _ _ =>
    (w.completion unicode e).map fun (service, handoffState, session) =>
      outcome (service.completeSsoAuthorizationUpdater e.now e.rand handoffState session) w.store
  | .exchangeAuthorizationCode _ clientId redirectUri code codeVerifier =>
    if isConfiguredClient service.config clientId then
      some (outcome (service.exchangeUpdater e.now clientId redirectUri code codeVerifier) w.store)
    else none
  | .createTokenPair call =>
    (w.exchanges.get? call).map fun x =>
      outcome (x.service.createTokenPairUpdater e.now e.rand x.session x.scope x.clientId) w.store
  | .refreshAccessToken clientId refreshToken =>
    if isConfiguredClient service.config clientId then
      some (outcome (service.refreshUpdater e.now e.rand clientId refreshToken) w.store)
    else none
  | .readAccessToken _ token => some (outcome (service.readUpdater e.now token) w.store)
  | .createGrant call request =>
    (w.requests.get? call).map fun r =>
      outcome ((AssetService.mk r.service.config).createGrantUpdater e.now e.rand r.session request)
        w.store
  | .verifyGrant grantId expiresAt signature =>
    if (AssetService.mk service.config).verifiesSignature (e.now 0) grantId expiresAt signature then
      some (outcome (AssetService.grantUpdater e.now (grantId.getD "")) w.store)
    else none
  | .revokeToken token => some (outcome (service.revokeTokenUpdater e.now token) w.store)
  | .revokeTokensForUser userId tenantId =>
    some (outcome (service.revokeTokensForUserUpdater e.now userId tenantId) w.store)
  | .prune => some (.ok ())
  | .authenticate _ _ _ | .inspectPendingSsoState _ | .receiveCallback _ _ _ | .finish _ => none

/-- The call in flight whose transaction has failed is over. -/
def failed (w : World) : Action → World
  | .beginAuthorization call => { w with signIns := w.signIns.erase call }
  | .answerCallback call _ _ => { w with callbacks := w.callbacks.erase call }
  | .createTokenPair call => { w with exchanges := w.exchanges.erase call }
  | .createGrant call _ => { w with requests := w.requests.erase call }
  | _ => w

/-- An event with a fault of the store. `JsonStore.read` does not raise: it
    returns the initial state when the store cannot be loaded. -/
def faulted (w : World) (fault : Fault) (e : Event) : Except PyError Answer × World :=
  match w.transaction unicode e with
  | some outcome => (.error (fault.raised outcome), w.failed e.action)
  | none =>
    match e.action, fault with
    | .inspectPendingSsoState _, .load | .receiveCallback _ _ _, .load =>
      let read := { w with store := Store.initial }.step unicode e
      (read.1, { read.2 with store := w.store })
    | _, _ => w.step unicode e

/-- One event, with or without a fault, or the end of the process. -/
def happen (w : World) : Happening → Except PyError Answer × World
  | .event e => w.step unicode e
  | .fault fault e => w.faulted unicode fault e
  | .stop => (.ok .none, { initial with store := w.store })

end World

/-- The broker with faults, as a machine. -/
def faulty : Machine World Happening (Except PyError Answer) where
  init := World.initial
  step := World.happen unicode

/-! ## Exchanges in flight -/

namespace Happening

/-- What is attempted. -/
def action? : Happening → Option Action
  | event e | fault _ e => some e.action
  | stop => none

/-- An exchange begins, under this number. -/
def Begins (call : ℕ) (y : Happening) : Prop :=
  ∃ clientId redirectUri code codeVerifier,
    y.action? = some (.exchangeAuthorizationCode call clientId redirectUri code codeVerifier)

/-- The exchange of this number ends: the process stops, the transaction of its
    pair is run or fails, the call is lost, or another one takes the number. -/
def Ends (call : ℕ) (y : Happening) : Prop :=
  y = .stop ∨ y.action? = some (.createTokenPair call) ∨ y.action? = some (.finish call) ∨
    y.Begins call

end Happening

variable {unicode}

/-- An event that does not end an exchange keeps it in flight. -/
theorem exchanges_step {w : World} {e : Event} {call : ℕ} (goes : ¬(Happening.event e).Ends call) :
    (w.step unicode e).2.exchanges.get? call = w.exchanges.get? call := by
  -- The actions that end the call are the three excluded here.
  have hends : ∀ {a : Action}, e.action = a → a ≠ .createTokenPair call ∧ a ≠ .finish call ∧
      ∀ clientId redirectUri code codeVerifier,
        a ≠ .exchangeAuthorizationCode call clientId redirectUri code codeVerifier := by
    rintro a rfl
    exact ⟨fun h => goes (.inr (.inl (congrArg some h))),
      fun h => goes (.inr (.inr (.inl (congrArg some h)))),
      fun _ _ _ _ h => goes (.inr (.inr (.inr ⟨_, _, _, _, congrArg some h⟩)))⟩
  rw [World.step]
  cases ha : e.action with
  | exchangeAuthorizationCode c clientId redirectUri code codeVerifier =>
    have hc : call ≠ c := by
      rintro rfl
      exact (hends ha).2.2 _ _ _ _ rfl
    dsimp only
    split
    · exact Dict.get?_set_of_ne _ hc _
    · rfl
    · rfl
  | createTokenPair c =>
    have hc : call ≠ c := by
      rintro rfl
      exact (hends ha).1 rfl
    dsimp only
    cases w.exchanges.get? c with
    | none => rfl
    | some x => exact (Dict.get?_erase _ _ _).trans (if_neg hc)
  | finish c =>
    have hc : call ≠ c := by
      rintro rfl
      exact (hends ha).2.1 rfl
    exact (Dict.get?_erase _ _ _).trans (if_neg hc)
  | answerCallback c authenticatedAt result =>
    dsimp only
    split
    · rfl
    · dsimp only [World.answerCallback]
      split <;> rfl
  | _ =>
    first
      | rfl
      | dsimp only
        split <;> rfl

/-- So does one with a fault. -/
theorem exchanges_kept {w : World} {y : Happening} {call : ℕ} (goes : ¬y.Ends call) :
    ((faulty unicode).next w y).exchanges.get? call = w.exchanges.get? call := by
  cases y with
  | event e => exact exchanges_step goes
  | stop => exact absurd (.inl rfl) goes
  | fault fault e =>
    have hgoes : ¬(Happening.event e).Ends call := by
      rintro (h | h)
      · cases h
      · exact goes (.inr h)
    change (w.faulted unicode fault e).2.exchanges.get? call = _
    unfold World.faulted
    split
    · unfold World.failed
      split
      · rfl
      · rfl
      · rename_i c ha
        have hc : call ≠ c := by
          rintro rfl
          exact hgoes (.inr (.inl (congrArg some ha)))
        exact (Dict.get?_erase _ _ _).trans (if_neg hc)
      · rfl
      · rfl
    · split
      · exact exchanges_step (w := { w with store := Store.initial }) hgoes
      · exact exchanges_step (w := { w with store := Store.initial }) hgoes
      · exact exchanges_step hgoes

/-- What ends an exchange leaves none in flight, unless another one takes its number. -/
theorem exchanges_ended {w : World} {y : Happening} {call : ℕ} (ends : y.Ends call)
    (none_begins : ¬y.Begins call) : ((faulty unicode).next w y).exchanges.get? call = none := by
  -- Without a fault, minting and finishing both drop the call.
  have hevent : ∀ e : Event, e.action = .createTokenPair call ∨ e.action = .finish call →
      (w.step unicode e).2.exchanges.get? call = none := by
    rintro e (action | action)
    · exact exchanges_createTokenPair unicode w action
    · rw [World.step, action]
      exact (Dict.get?_erase _ _ _).trans (if_pos rfl)
  rcases ends with rfl | action | action | begins
  · rfl
  · cases y with
    | event e => exact hevent e (.inl (Option.some.inj action))
    | stop => cases action
    | fault fault e =>
      obtain action := Option.some.inj action
      change (w.faulted unicode fault e).2.exchanges.get? call = _
      unfold World.faulted World.transaction
      rw [action]
      dsimp only
      cases hx : w.exchanges.get? call with
      | none => exact hevent e (.inl action)
      | some x => exact (Dict.get?_erase _ _ _).trans (if_pos rfl)
  · cases y with
    | event e => exact hevent e (.inr (Option.some.inj action))
    | stop => cases action
    | fault fault e =>
      obtain action := Option.some.inj action
      change (w.faulted unicode fault e).2.exchanges.get? call = _
      unfold World.faulted World.transaction
      rw [action]
      exact hevent e (.inr action)
  · exact absurd begins none_begins

/-- No exchange is in flight under a number that none takes. -/
theorem exchanges_absent {w : World} {y : Happening} {call : ℕ} (none_begins : ¬y.Begins call)
    (absent : w.exchanges.get? call = none) : ((faulty unicode).next w y).exchanges.get? call = none := by
  by_cases hends : y.Ends call
  · exact exchanges_ended hends none_begins
  · rw [exchanges_kept hends, absent]

/-- An exchange that nothing ends is in flight. -/
theorem exchanges_kept_run {pre : List Happening} {call : ℕ} {o : Option Exchange}
    (h : ((faulty unicode).after pre).exchanges.get? call = o) {mid : List Happening}
    (goes : ∀ y ∈ mid, ¬y.Ends call) : ((faulty unicode).after (pre ++ mid)).exchanges.get? call = o := by
  refine Machine.stable (Q := fun es => ((faulty unicode).after es).exchanges.get? call = o) h mid
    fun l y rest hl hbefore => ?_
  rw [Machine.after_snoc, exchanges_kept (goes y (by simp [hl])), hbefore]

/-- One that is in flight under a number that none has taken was not ended. -/
theorem not_ends_of_inFlight {pre mid : List Happening} {call : ℕ} {x : Exchange}
    (inFlight : ((faulty unicode).after (pre ++ mid)).exchanges.get? call = some x)
    (none_begins : ∀ y ∈ mid, ¬y.Begins call) : ∀ y ∈ mid, ¬y.Ends call := by
  intro y hy hends
  obtain ⟨l, l', rfl⟩ := List.mem_iff_append.1 hy
  have hended : ((faulty unicode).after (pre ++ l ++ [y])).exchanges.get? call = none := by
    rw [Machine.after_snoc]
    exact exchanges_ended hends (none_begins y hy)
  have habsent := Machine.stable
    (Q := fun es => ((faulty unicode).after es).exchanges.get? call = none) hended l'
    fun l₁ z rest hl hbefore => by
      rw [Machine.after_snoc]
      exact exchanges_absent (none_begins z (by simp [hl])) hbefore
  rw [show pre ++ (l ++ y :: l') = pre ++ l ++ [y] ++ l' by simp, habsent] at inFlight
  cases inFlight

/-! ## Atomicity -/

variable (unicode)

/-- The event burns a code for an exchange that is right about it: it names the
    client and the redirect URI, proves the challenge, and the session opens. -/
structure Redeems (w : World) (e : Event) (call : ℕ) (x : Exchange) (record : AuthorizationCode) :
    Prop extends Burns unicode w e call x record where
  method : AuthService.methodOrS256 (some record.codeChallengeMethod) = "S256"

/-- The exchange, past its first transaction after `pre`, has its pair stored in `post`. -/
def PairStored (pre : List Happening) (call : ℕ) (x : Exchange) (post : List Happening) : Prop :=
  ∃ mid f rest response, post = mid ++ .event f :: rest ∧ f.action = .createTokenPair call ∧
    (∀ y ∈ mid, ¬y.Begins call) ∧
    (faulty unicode).out ((faulty unicode).after (pre ++ mid)) (.event f) =
      .ok (.tokens (.ok response)) ∧
    ((faulty unicode).after (pre ++ mid ++ [.event f])).store.accessTokens.get? response.accessToken =
      some (x.service.accessTokenRecord (fun i => f.now (i + 1)) f.rand x.session x.scope x.clientId) ∧
    ∃ k, response.refreshToken = some k ∧
      ((faulty unicode).after (pre ++ mid ++ [.event f])).store.refreshTokens.get? k =
        some (x.service.refreshTokenRecord (fun i => f.now (i + 1)) f.rand x.session x.scope x.clientId)

/-- A transaction of an exchange of the code fails, after `pre`; its call began after `before`. -/
inductive Raises (pre : List Happening) : Happening → (before : List Happening) → (code : String) → Prop
  | burning {fault : Fault} {e : Event} {call : ℕ} {clientId redirectUri code : String}
    {codeVerifier : Option String}
    (action : e.action = .exchangeAuthorizationCode call clientId redirectUri code codeVerifier)
    (transacts : (((faulty unicode).after pre).transaction unicode e).isSome = true) :
    Raises pre (.fault fault e) pre code
  | creating {before mid : List Happening} {fault : Fault} {e f : Event} {call : ℕ} {x : Exchange}
    {record : AuthorizationCode} (split : pre = before ++ .event e :: mid)
    (redeems : Redeems unicode ((faulty unicode).after before) e call x record)
    (action : f.action = .createTokenPair call) (own : ∀ y ∈ mid, ¬y.Begins call)
    (inFlight : ((faulty unicode).after pre).exchanges.get? call = some x) :
    Raises pre (.fault fault f) before x.code

/-- The exchanges of a run are atomic: every code that is burned has its pair
    stored, and a code whose exchange raises for the store is still there. -/
structure ExchangeAtomic (es : List Happening) : Prop where
  stored : ∀ pre e post call x record, es = pre ++ .event e :: post →
    Redeems unicode ((faulty unicode).after pre) e call x record →
    PairStored unicode (pre ++ [.event e]) call x post
  redeemable : ∀ pre y post before code, es = pre ++ y :: post → Raises unicode pre y before code →
    ∀ r, ((faulty unicode).after before).store.authorizationCodes.get? code = some r →
      ((faulty unicode).after (pre ++ [y])).store.authorizationCodes.get? code = some r

/-- The second transaction of the exchange goes well, and nothing has ended the exchange before. -/
def Completed (call : ℕ) (post : List Happening) : Prop :=
  ∃ mid f rest, post = mid ++ .event f :: rest ∧ f.action = .createTokenPair call ∧
    ∀ y ∈ mid, ¬y.Ends call

variable {unicode}

/-- An exchange that redeems its code has its pair still to store. -/
theorem Redeems.inFlight {w : World} {e : Event} {call : ℕ} {x : Exchange} {record : AuthorizationCode}
    (h : Redeems unicode w e call x record) :
    ((faulty unicode).next w (.event e)).exchanges.get? call = some x := by
  obtain ⟨service, clientId, redirectUri, code, codeVerifier, session, scope⟩ := x
  obtain ⟨⟨action, hservice, found, client, redirect, challenge, proof, opens, hscope, gone⟩, method⟩ := h
  dsimp only at action hservice found client redirect challenge proof opens hscope gone
  subst hservice hscope
  -- For an unknown client the store is left alone, and the code would still be there.
  have hconfigured : isConfiguredClient e.service.config clientId = true := by
    by_contra hunknown
    change (w.step unicode e).2.store.authorizationCodes.get? code = none at gone
    rw [World.step, action] at gone
    dsimp only at gone
    rw [AuthService.exchangeAuthorizationCode, if_neg hunknown] at gone
    dsimp only at gone
    rw [AuthService.get?_authorizationCodes_prune, gone] at found
    cases found
  -- A digest is never empty, so neither is the challenge it equals.
  have hchallenge : truthyStr record.codeChallenge = true := by
    rw [← challenge]
    cases codeVerifier with
    | none => cases proof
    | some verifier =>
      simpa [truthyStr, sha256B64url] using Base64.encodeUnpadded_ne_empty (Sha256.digest_ne_nil _)
  have hupdate : e.service.exchangeAuthorizationCode e.now clientId redirectUri code codeVerifier
      w.store = (.ok (.ok (session, record.scope)), e.service.burned w.store (e.now 0) code) := by
    rw [AuthService.exchangeAuthorizationCode, if_pos hconfigured]
    refine update_of_ok ?_
    rw [AuthService.exchangeUpdater]
    dsimp only
    rw [found]
    dsimp only
    rw [if_neg (by simp [client, redirect]), if_neg (by simp [hchallenge, proof]), if_neg (by simp [method]),
      if_neg (by simp [challenge]), tryOpen_eq_some_iff.2 opens]
    rfl
  change (w.step unicode e).2.exchanges.get? call = _
  rw [World.step, action]
  dsimp only
  rw [hupdate]
  exact Dict.get?_set_self _ _ _

/-- The exchanges of a run are atomic if every exchange that redeems its code has
    its second transaction go well before it ends, and only then. -/
theorem exchange_atomic_iff (unicode : Unicode) (es : List Happening) :
    ExchangeAtomic unicode es ↔ ∀ pre e post call x record, es = pre ++ .event e :: post →
      Redeems unicode ((faulty unicode).after pre) e call x record → Completed call post := by
  constructor
  · intro atomic pre e post call x record hes redeems
    obtain ⟨mid, f, rest, response, rfl, action, hown, hout, -⟩ :=
      atomic.stored pre e post call x record hes redeems
    refine ⟨mid, f, rest, rfl, action, ?_⟩
    -- The pair could be stored, so the exchange was in flight.
    cases hx : ((faulty unicode).after (pre ++ [.event e] ++ mid)).exchanges.get? call with
    | some x' => exact not_ends_of_inFlight hx hown
    | none =>
      change (World.step unicode _ f).1 = _ at hout
      rw [World.step, action] at hout
      dsimp only at hout
      rw [hx] at hout
      cases hout
  · intro completed
    constructor
    · intro pre e post call x record hes redeems
      obtain ⟨mid, f, rest, rfl, action, hgoes⟩ := completed pre e post call x record hes redeems
      have hinFlight := redeems.inFlight
      rw [← Machine.after_snoc] at hinFlight
      have hcreates : CreatesPair ((faulty unicode).after (pre ++ [.event e] ++ mid)) f x.code x :=
        ⟨⟨call, action, exchanges_kept_run hinFlight hgoes⟩, rfl⟩
      obtain ⟨hout, haccess, k, hk, hrefresh⟩ := creates_pair_stored unicode hcreates
      refine ⟨mid, f, rest, _, rfl, action, fun y hy begins => hgoes y hy (.inr (.inr (.inr begins))),
        hout, ?_, k, hk, ?_⟩
      · rw [Machine.after_snoc]
        exact haccess
      · rw [Machine.after_snoc]
        exact hrefresh
    · intro pre y post before code hes raises r hr
      cases raises with
      | @burning fault e call clientId redirectUri _ codeVerifier action transacts =>
        rw [Machine.after_snoc]
        change (World.faulted unicode _ fault e).2.store.authorizationCodes.get? code = some r
        unfold World.faulted
        obtain ⟨outcome, houtcome⟩ := Option.isSome_iff_exists.1 transacts
        rw [houtcome, action]
        exact hr
      | @creating _ mid fault e f call x record split redeems action own inFlight =>
        subst split
        -- The exchange was to end with its pair stored, and has not ended yet.
        obtain ⟨mid', f', rest, hpost, action', hgoes⟩ := completed before e (mid ++ .fault fault f :: post)
          call x record (by rw [hes, List.append_assoc, List.cons_append]) redeems
        have hsplit : before ++ .event e :: mid = before ++ [.event e] ++ mid := by simp
        rw [hsplit] at inFlight
        have hgoes' := not_ends_of_inFlight inFlight own
        exfalso
        rcases List.append_eq_append_iff.1 hpost with ⟨l, rfl, hl⟩ | ⟨l, rfl, hl⟩
        · cases l with
          | nil => cases hl
          | cons z l =>
            obtain ⟨rfl, -⟩ := List.cons.inj hl
            exact hgoes (.fault fault f) (by simp) (.inr (.inl (congrArg some action)))
        · cases l with
          | nil => cases hl
          | cons z l =>
            obtain ⟨rfl, -⟩ := List.cons.inj hl
            exact hgoes' (.event f') (by simp) (.inr (.inl (congrArg some action')))

/-- An exchange whose second transaction cannot save the store. -/
def lostPairRun : List Happening :=
  (exchangeRun.take 2).map .event ++ [.fault .save exchangeRun[2]]

/-- The exchange raises, and leaves neither the code nor a token. -/
theorem pair_lost :
    (faulty Unicode.ascii).out ((faulty Unicode.ascii).after (lostPairRun.take 2)) lostPairRun[2] =
        .error .osError ∧
      ((faulty Unicode.ascii).after lostPairRun).store = Store.initial ∧
      ¬ExchangeAtomic Unicode.ascii lostPairRun := by
  refine ⟨by decide +kernel, by decide +kernel, fun atomic => ?_⟩
  have hinFlight : (((broker Unicode.ascii).after (exchangeRun.take 2)).exchanges.get? 0).map (·.code) =
      some "code_a" := by decide +kernel
  obtain ⟨x, hx, hcode⟩ := Option.map_eq_some_iff.1 hinFlight
  have hmethod : ((exchangeRun[1].service.prune ((broker Unicode.ascii).after (exchangeRun.take 1)).store
      (exchangeRun[1].now 0)).authorizationCodes.get? "code_a").map (·.codeChallengeMethod) =
      some "S256" := by decide +kernel
  have hstep := exchange_step Unicode.ascii ((broker Unicode.ascii).after (exchangeRun.take 1))
    exchangeRun[1] 0
  have hbefore : ((broker Unicode.ascii).after (exchangeRun.take 1)).exchanges.get? 0 = none := rfl
  rw [hbefore, ← Machine.after_snoc] at hstep
  change ExchangeStep _ _ _ _ _ (((broker Unicode.ascii).after (exchangeRun.take 2)).exchanges.get? 0)
    at hstep
  rw [hx] at hstep
  cases hstep with
  | @burned _ record burns =>
    have hfound := burns.found
    rw [hcode] at hfound
    rw [hfound, Option.map_some, Option.some.injEq] at hmethod
    have hredeems : Redeems Unicode.ascii ((faulty Unicode.ascii).after [.event exchangeRun[0]])
        exchangeRun[1] 0 x record := ⟨burns, by rw [hmethod]; rfl⟩
    obtain ⟨mid, f, rest, response, hpost, -⟩ := atomic.stored [.event exchangeRun[0]] exchangeRun[1]
      [.fault .save exchangeRun[2]] 0 x record rfl hredeems
    cases mid with
    | nil => cases hpost
    | cons y mid => simp at hpost

end Broker
