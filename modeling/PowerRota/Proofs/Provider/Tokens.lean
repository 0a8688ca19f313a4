import Mathlib.Data.List.Induction
import PowerRota.Provider.Callers
import PowerRota.Provider.Client

/-! Calls for tokens, one after the other and at once.

What a call comes to depends on the cache, the clock, and the answer that the provider would give
if it were asked. Calls at once come to what the same calls come to one after the other, in the
order of their turns. -/

set_option autoImplicit false

namespace PowerRota

open PowerRota.Calendar

namespace Provider

/-- Credentials that can be presented to the provider at a time: a password, or a key that signs
what is asserted then. -/
def Presentable (signer : Signer) (endpoints : Endpoints) (reading : Instant) :
    Credentials → Prop
  | .serviceAccount key =>
      ∃ assertion, signer.sign key (assertionOf endpoints key reading) = .ok assertion
  | .password _ => True

/-- What is wrong with the signature of a key at a time. -/
def SigningFails (signer : Signer) (endpoints : Endpoints) (reading : Instant)
    (credentials : Credentials) (fault : CloudFault) : Prop :=
  ∃ key, credentials = .serviceAccount key ∧
    signer.sign key (assertionOf endpoints key reading) = .error fault

/-- There is no token, or none with more time left than the margin. -/
def TokenCache.Due (cache : TokenCache) (reading : Instant) : Prop :=
  ∀ token, cache = some token → token.left reading ≤ TokenCache.margin

def obtained (endpoints : Endpoints) (correspondence : Correspondence) : List Token :=
  correspondence.filterMap fun exchange => (tokenOf endpoints exchange.2).toOption

section Rules

variable {cache : TokenCache} {reading : Instant} {token : Token} {signer : Signer}
  {endpoints : Endpoints} {credentials : Credentials} {correspondence : Correspondence}
  {request : Request} {delivery : Delivery}

theorem TokenCache.usable?_eq_some_iff :
    cache.usable? reading = some token ↔ cache = some token ∧ margin < token.left reading := by
  simp [usable?, Option.filter_eq_some_iff]

theorem TokenCache.usable?_eq_none_iff : cache.usable? reading = none ↔ cache.Due reading := by
  cases cache <;> simp [usable?, Due]

theorem SigningFails.not_presentable {fault : CloudFault}
    (fails : SigningFails signer endpoints reading credentials fault) :
    ¬ Presentable signer endpoints reading credentials := by
  obtain ⟨key, rfl, unsigned⟩ := fails
  rintro ⟨assertion, signed⟩
  cases unsigned.symm.trans signed

theorem SigningFails.tokenRequest {fault : CloudFault}
    (fails : SigningFails signer endpoints reading credentials fault) :
    tokenRequest signer endpoints credentials reading = .error (.cloud fault) := by
  obtain ⟨key, rfl, unsigned⟩ := fails
  simp only [Provider.tokenRequest, unsigned]

theorem exists_tokenRequest_or (signer : Signer) (endpoints : Endpoints) (reading : Instant)
    (credentials : Credentials) :
    (Presentable signer endpoints reading credentials ∧
        ∃ request, tokenRequest signer endpoints credentials reading = .ok request) ∨
      ∃ fault, SigningFails signer endpoints reading credentials fault := by
  cases credentials with
  | password token => exact Or.inl ⟨trivial, _, rfl⟩
  | serviceAccount key =>
    cases signed : signer.sign key (assertionOf endpoints key reading) with
    | ok assertion =>
      exact Or.inl ⟨⟨assertion, signed⟩, ⟨.post, endpoints.tokens, none, .assertion assertion⟩,
        by simp only [tokenRequest, signed]⟩
    | error fault => exact Or.inr ⟨fault, key, rfl, signed⟩

theorem presentable_of_tokenRequest
    (asked : tokenRequest signer endpoints credentials reading = .ok request) :
    Presentable signer endpoints reading credentials := by
  rcases exists_tokenRequest_or signer endpoints reading credentials with
    ⟨presentable, -⟩ | ⟨fault, fails⟩
  · exact presentable
  · cases asked.symm.trans fails.tokenRequest

theorem posted_of_tokenRequest
    (asked : tokenRequest signer endpoints credentials reading = .ok request) :
    request.method = .post ∧ request.url = endpoints.tokens ∧ request.authorization = none := by
  unfold tokenRequest at asked
  split at asked
  next => exact Except.ok.inj asked ▸ ⟨rfl, rfl, rfl⟩
  next =>
    split at asked
    next => exact Except.ok.inj asked ▸ ⟨rfl, rfl, rfl⟩
    next => cases asked

theorem obtained_concat_ok (given : tokenOf endpoints delivery = .ok token) :
    obtained endpoints (correspondence ++ [(request, delivery)]) =
      obtained endpoints correspondence ++ [token] := by
  simp [obtained, given, Except.toOption]

theorem obtained_concat_error {error : Error} (failed : tokenOf endpoints delivery = .error error) :
    obtained endpoints (correspondence ++ [(request, delivery)]) =
      obtained endpoints correspondence := by
  simp [obtained, failed, Except.toOption]

end Rules

namespace Session

variable {session : Session Correspondence} {rule : Correspondence → Request → Delivery}
  {token : Token} {cache : TokenCache} {correspondence : Correspondence}
  {result : Except Error String}

abbrev Presents (session : Session Correspondence) (reading : Instant) : Prop :=
  Presentable session.signer session.endpoints reading session.credentials

/-- All that a call for a token can come to, if requests are answered by a rule and written down:
what is kept then, what was said by then, and the answer. -/
inductive Served (session : Session Correspondence) (rule : Correspondence → Request → Delivery) :
    TokenCache → Correspondence → Except Error String → Prop where
  | kept {token : Token} (cached : session.cache = some token)
      (lasting : TokenCache.margin < token.left session.now) :
      Served session rule session.cache session.provider (.ok token.text)
  | unsigned {fault : CloudFault} (due : session.cache.Due session.now)
      (fails :
        SigningFails session.signer session.endpoints session.now session.credentials fault) :
      Served session rule session.cache session.provider (.error (.cloud fault))
  | refused {request : Request} {error : Error} (due : session.cache.Due session.now)
      (asked : tokenRequest session.signer session.endpoints session.credentials session.now =
        .ok request)
      (failed : tokenOf session.endpoints (rule session.provider request) = .error error) :
      Served session rule session.cache
        (session.provider ++ [(request, rule session.provider request)]) (.error error)
  | obtained {request : Request} {token : Token} (due : session.cache.Due session.now)
      (asked : tokenRequest session.signer session.endpoints session.credentials session.now =
        .ok request)
      (given : tokenOf session.endpoints (rule session.provider request) = .ok token) :
      Served session rule (some token)
        (session.provider ++ [(request, rule session.provider request)]) (.ok token.text)

theorem token_of_lasting (cached : session.cache = some token)
    (lasting : TokenCache.margin < token.left session.now) :
    session.token = (session, .ok token.text) := by
  have usable := TokenCache.usable?_eq_some_iff.mpr ⟨cached, lasting⟩
  simp only [Session.token, usable]

theorem token_of_due (recorded : session.answer = Correspondence.answer rule)
    (due : session.cache.Due session.now) :
    session.token =
      match tokenRequest session.signer session.endpoints session.credentials session.now with
      | .error error => (session, .error error)
      | .ok request =>
          let delivery := rule session.provider request
          let (cache, result) := session.cache.receive (tokenOf session.endpoints delivery)
          ({ session with cache, provider := session.provider ++ [(request, delivery)] },
            result) := by
  have unusable := TokenCache.usable?_eq_none_iff.mpr due
  simp only [Session.token, unusable, exchange, deliver, recorded]
  cases tokenRequest session.signer session.endpoints session.credentials session.now <;> rfl

theorem token_eq_of_served (recorded : session.answer = Correspondence.answer rule)
    (served : Served session rule cache correspondence result) :
    session.token = ({ session with cache, provider := correspondence }, result) := by
  cases served with
  | kept cached lasting => exact token_of_lasting cached lasting
  | unsigned due fails => rw [token_of_due recorded due, fails.tokenRequest]
  | refused due asked failed =>
    rw [token_of_due recorded due, asked]
    simp only [failed, TokenCache.receive]
  | obtained due asked given =>
    rw [token_of_due recorded due, asked]
    simp only [given, TokenCache.receive]

theorem exists_served (session : Session Correspondence)
    (rule : Correspondence → Request → Delivery) :
    ∃ cache correspondence result, Served session rule cache correspondence result := by
  cases usable : session.cache.usable? session.now with
  | some token =>
    obtain ⟨cached, lasting⟩ := TokenCache.usable?_eq_some_iff.mp usable
    exact ⟨_, _, _, .kept cached lasting⟩
  | none =>
    have due := TokenCache.usable?_eq_none_iff.mp usable
    rcases exists_tokenRequest_or session.signer session.endpoints session.now
        session.credentials with ⟨-, request, asked⟩ | ⟨fault, fails⟩
    · cases answer : tokenOf session.endpoints (rule session.provider request) with
      | error error => exact ⟨_, _, _, .refused due asked answer⟩
      | ok token => exact ⟨_, _, _, .obtained due asked answer⟩
    · exact ⟨_, _, _, .unsigned due fails⟩

end Session

structure TokenCall where
  reading : Instant
  delivery : Delivery

namespace Session

def before (session : Session Correspondence) (call : TokenCall) : Session Correspondence :=
  { session with
    now := call.reading, answer := Correspondence.answer fun _ _ => call.delivery }

def call (session : Session Correspondence) (call : TokenCall) :
    Session Correspondence × Except Error String :=
  (session.before call).token

def calls : Session Correspondence → List TokenCall →
    Session Correspondence × List (Except Error String)
  | session, [] => (session, [])
  | session, call :: calls =>
      let (session, result) := session.call call
      let (session, results) := session.calls calls
      (session, result :: results)

def fresh (signer : Signer) (endpoints : Endpoints) (credentials : Credentials) (now : Instant) :
    Session Correspondence :=
  ⟨signer, endpoints, credentials, none, now, Correspondence.answer fun _ _ => none, []⟩

variable {first session : Session Correspondence} {call : TokenCall} {token : Token}
  {cache : TokenCache} {correspondence : Correspondence} {result : Except Error String}

theorem calls_concat (session : Session Correspondence) (earlier : List TokenCall)
    (call : TokenCall) :
    session.calls (earlier ++ [call]) =
      (((session.calls earlier).1.call call).1,
        (session.calls earlier).2 ++ [((session.calls earlier).1.call call).2]) := by
  induction earlier generalizing session with
  | nil => rfl
  | cons first earlier ih => simp only [List.cons_append, calls, ih]

abbrev CallServed (session : Session Correspondence) (call : TokenCall) :
    TokenCache → Correspondence → Except Error String → Prop :=
  Served (session.before call) fun _ _ => call.delivery

theorem call_eq_of_served (served : session.CallServed call cache correspondence result) :
    session.call call =
      ({ session.before call with cache, provider := correspondence }, result) :=
  token_eq_of_served rfl served

/-- What is so after any number of calls in a session. -/
structure Follows (first session : Session Correspondence) : Prop where
  signer_eq : session.signer = first.signer
  endpoints_eq : session.endpoints = first.endpoints
  credentials_eq : session.credentials = first.credentials
  cache_eq : session.cache = (obtained first.endpoints session.provider).getLast?

theorem Follows.next (follows : Follows first session) (call : TokenCall) :
    Follows first (session.call call).1 := by
  obtain ⟨signer, endpoints, credentials, recent⟩ := follows
  obtain ⟨cache, correspondence, result, served⟩ :=
    (session.before call).exists_served fun _ _ => call.delivery
  rw [call_eq_of_served served]
  refine ⟨signer, endpoints, credentials, ?_⟩
  show cache = (obtained first.endpoints correspondence).getLast?
  rw [← endpoints] at recent ⊢
  cases served with
  | kept | unsigned => exact recent
  | refused _ _ failed =>
    exact recent.trans (congrArg List.getLast? (obtained_concat_error failed).symm)
  | obtained _ _ given =>
    exact (List.getLast?_concat.symm).trans
      (congrArg List.getLast? (obtained_concat_ok given).symm)

theorem follows_calls (begins : Follows first first) (earlier : List TokenCall) :
    Follows first (first.calls earlier).1 := by
  induction earlier using List.reverseRecOn with
  | nil => exact begins
  | append_singleton earlier call ih =>
    rw [calls_concat]
    exact ih.next call

theorem follows_fresh (signer : Signer) (endpoints : Endpoints) (credentials : Credentials)
    (now : Instant) :
    Follows (fresh signer endpoints credentials now) (fresh signer endpoints credentials now) :=
  ⟨rfl, rfl, rfl, rfl⟩

/-- What is right for a call: when the provider is asked, and what is returned and kept. -/
structure Lawful (before : Session Correspondence) (call : TokenCall)
    (after : Session Correspondence) (result : Except Error String) : Prop where
  /-- The provider is asked, once, if no token will do and there is something to present. -/
  asked : before.cache.Due call.reading → before.Presents call.reading →
    ∃ request, tokenRequest before.signer before.endpoints before.credentials call.reading =
        .ok request ∧
      request.method = .post ∧ request.url = before.endpoints.tokens ∧
      after.provider = before.provider ++ [(request, call.delivery)]
  /-- It is asked in no other case. -/
  unasked : ¬ (before.cache.Due call.reading ∧ before.Presents call.reading) →
    after.provider = before.provider
  /-- What is returned is the text of the token that was obtained last: just now, or earlier
  and with more time left than the margin. -/
  returned : ∀ text, result = .ok text → ∃ token, token.text = text ∧ after.cache = some token ∧
    (obtained before.endpoints after.provider).getLast? = some token ∧
    (before.cache = some token ∧ TokenCache.margin < token.left call.reading ∨
      before.cache.Due call.reading ∧ before.Presents call.reading ∧
        tokenOf before.endpoints call.delivery = .ok token)
  /-- A call fails only if no token will do and the exchange fails, or the signature does before
  anybody is asked. The cache stays. -/
  failed : ∀ error, result = .error error →
    before.cache.Due call.reading ∧ after.cache = before.cache ∧
    (before.Presents call.reading ∧ tokenOf before.endpoints call.delivery = .error error ∨
      ∃ fault, error = .cloud fault ∧ ¬ before.Presents call.reading ∧
        SigningFails before.signer before.endpoints call.reading before.credentials fault)

theorem not_due_of_lasting {cache : TokenCache} {reading : Instant} (cached : cache = some token)
    (lasting : TokenCache.margin < token.left reading) : ¬ cache.Due reading :=
  fun due => absurd (due token cached) (Int.not_le.mpr lasting)

theorem Follows.lawful (follows : Follows first session)
    (call : TokenCall) : Lawful session call (session.call call).1 (session.call call).2 := by
  have recent := (follows.next call).cache_eq
  rw [← follows.endpoints_eq] at recent
  obtain ⟨cache, correspondence, result, served⟩ :=
    (session.before call).exists_served fun _ _ => call.delivery
  rw [call_eq_of_served served] at recent ⊢
  change cache = (Provider.obtained session.endpoints correspondence).getLast? at recent
  -- a call is served from the cache, fails at the signature, or comes back from the provider
  cases served with
  | kept cached lasting =>
    have usable := not_due_of_lasting cached lasting
    exact ⟨fun due => absurd due usable, fun _ => rfl,
      fun _ same => ⟨_, Except.ok.inj same, cached, recent ▸ cached, .inl ⟨cached, lasting⟩⟩,
      nofun⟩
  | unsigned due fails =>
    have unpresentable := fails.not_presentable
    exact ⟨fun _ presentable => absurd presentable unpresentable, fun _ => rfl, nofun,
      fun _ same => ⟨due, rfl, .inr ⟨_, (Except.error.inj same).symm, unpresentable, fails⟩⟩⟩
  | refused due asked failed =>
    have presentable := presentable_of_tokenRequest asked
    obtain ⟨posted, address, -⟩ := posted_of_tokenRequest asked
    exact ⟨fun _ _ => ⟨_, asked, posted, address, rfl⟩,
      fun idle => absurd ⟨due, presentable⟩ idle, nofun,
      fun _ same => ⟨due, rfl, .inl ⟨presentable, Except.error.inj same ▸ failed⟩⟩⟩
  | obtained due asked given =>
    have presentable := presentable_of_tokenRequest asked
    obtain ⟨posted, address, -⟩ := posted_of_tokenRequest asked
    exact ⟨fun _ _ => ⟨_, asked, posted, address, rfl⟩,
      fun idle => absurd ⟨due, presentable⟩ idle,
      fun _ same => ⟨_, Except.ok.inj same, rfl, recent.symm, .inr ⟨due, presentable, given⟩⟩,
      nofun⟩

end Session

end Provider

end PowerRota
