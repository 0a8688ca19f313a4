import PowerRota.Proofs.Provider.Tokens

/-! Callers that call for tokens at once.

The source serves them one at a time. So they come to where the same calls lead one after the
other, in the order of their turns. -/

set_option autoImplicit false

namespace PowerRota.Provider

open PowerRota.Calendar

def CallersMove.reading? : CallersMove → Option Instant
  | .wait now => some now
  | _ => none

namespace Callers

variable {callers after : Callers} {first : Session Correspondence} {calls : List TokenCall}
  {move : CallersMove} {moves : List CallersMove} {caller : Nat} {line : List Nat} {token : Token}
  {request : Request} {delivery : Delivery} {error : Error}

inductive Run : Callers → List CallersMove → Callers → Prop where
  | done {callers : Callers} : Run callers [] callers
  | next {callers middle after : Callers} {move : CallersMove} {moves : List CallersMove} :
      callers.step? move = some middle → Run middle moves after → Run callers (move :: moves) after

theorem serve_of_lasting (cached : callers.cache = some token)
    (lasting : TokenCache.margin < token.left callers.now) :
    callers.serve caller = callers.report caller (.ok token.text) := by
  have usable := TokenCache.usable?_eq_some_iff.mpr ⟨cached, lasting⟩
  simp only [serve, usable]

theorem serve_of_unsigned (due : callers.cache.Due callers.now)
    (unsigned : tokenRequest callers.signer callers.endpoints callers.credentials callers.now =
      .error error) :
    callers.serve caller = callers.report caller (.error error) := by
  have unusable := TokenCache.usable?_eq_none_iff.mpr due
  simp only [serve, unusable, unsigned]

theorem serve_of_asked (due : callers.cache.Due callers.now)
    (asked : tokenRequest callers.signer callers.endpoints callers.credentials callers.now =
      .ok request) :
    callers.serve caller = { callers with exchange := some (caller, request) } := by
  have unusable := TokenCache.usable?_eq_none_iff.mpr due
  simp only [serve, unusable, asked]

inductive Moved (callers : Callers) : CallersMove → Callers → Prop where
  | waited {now : Instant} (later : callers.now ≤ now) :
      Moved callers (.wait now) { callers with now }
  | arrived (caller : Nat) :
      Moved callers (.arrive caller) { callers with line := callers.line ++ [caller] }
  | left (caller : Nat) :
      Moved callers (.leave caller) { callers with line := callers.line.erase caller }
  | served {caller : Nat} {line : List Nat} (idle : callers.exchange = none)
      (lined : callers.line = caller :: line) :
      Moved callers .serve ({ callers with line }.serve caller)
  | received {caller : Nat} {request : Request} (delivery : Delivery)
      (pending : callers.exchange = some (caller, request)) :
      Moved callers (.receive delivery)
        ({ callers.release request delivery with
          cache := (callers.cache.receive (tokenOf callers.endpoints delivery)).1 }.report caller
            (callers.cache.receive (tokenOf callers.endpoints delivery)).2)
  | abandoned {caller : Nat} {request : Request}
      (pending : callers.exchange = some (caller, request)) :
      Moved callers .abandon (callers.release request none)

theorem moved_of_step? (moved : callers.step? move = some after) : Moved callers move after := by
  cases move with
  | wait now =>
    obtain ⟨later, same⟩ := Option.ite_none_right_eq_some.mp moved
    exact Option.some.inj same ▸ .waited later
  | arrive caller => exact Option.some.inj moved ▸ .arrived caller
  | leave caller => exact Option.some.inj moved ▸ .left caller
  | serve =>
    simp only [step?] at moved
    split at moved
    next idle lined => exact Option.some.inj moved ▸ .served idle lined
    next => cases moved
  | receive delivery =>
    obtain ⟨⟨caller, request⟩, pending, rfl⟩ := Option.map_eq_some_iff.mp moved
    exact .received delivery pending
  | abandon =>
    obtain ⟨⟨caller, request⟩, pending, rfl⟩ := Option.map_eq_some_iff.mp moved
    exact .abandoned pending

/-- The callers have come to where calls one after the other lead, in the order of their turns.
Nobody was told what came of a call whose caller had left. -/
structure Serial (first : Session Correspondence) (callers : Callers) (calls : List TokenCall) :
    Prop where
  ordered : calls.Pairwise fun earlier later => earlier.reading ≤ later.reading
  past : ∀ call ∈ calls, call.reading ≤ callers.now
  signer_eq : callers.signer = (first.calls calls).1.signer
  endpoints_eq : callers.endpoints = (first.calls calls).1.endpoints
  credentials_eq : callers.credentials = (first.calls calls).1.credentials
  cache_eq : callers.cache = (first.calls calls).1.cache
  correspondence_eq : callers.correspondence = (first.calls calls).1.provider
  results_sublist : (callers.results.map Prod.snd).Sublist (first.calls calls).2
  pending : ∀ caller request, callers.exchange = some (caller, request) →
    ∃ reading, reading ≤ callers.now ∧ (∀ call ∈ calls, call.reading ≤ reading) ∧
      callers.cache.Due reading ∧
      tokenRequest callers.signer callers.endpoints callers.credentials reading = .ok request

theorem Serial.start (signer : Signer) (endpoints : Endpoints) (credentials : Credentials)
    (now : Instant) :
    Serial (.fresh signer endpoints credentials now) (.start signer endpoints credentials now) [] :=
  ⟨.nil, nofun, rfl, rfl, rfl, rfl, rfl, .slnil, nofun⟩

/-- How the end of a turn leaves the callers: what is kept then, what was said by then, and what
came of the turn, which may not be told. -/
structure TurnEnds (callers after : Callers) (cache : TokenCache) (correspondence : Correspondence)
    (result : Except Error String) : Prop where
  signer_eq : after.signer = callers.signer
  endpoints_eq : after.endpoints = callers.endpoints
  credentials_eq : after.credentials = callers.credentials
  now_eq : after.now = callers.now
  cache_eq : after.cache = cache
  correspondence_eq : after.correspondence = correspondence
  told : (after.results.map Prod.snd).Sublist (callers.results.map Prod.snd ++ [result])
  idle : after.exchange = none

theorem Serial.turn (serial : Serial first callers calls) {call : TokenCall}
    {cache : TokenCache} {correspondence : Correspondence} {result : Except Error String}
    (served : (first.calls calls).1.CallServed call cache correspondence result)
    (last : ∀ earlier ∈ calls, earlier.reading ≤ call.reading) (past : call.reading ≤ callers.now)
    (ends : TurnEnds callers after cache correspondence result) :
    Serial first after (calls ++ [call]) := by
  obtain ⟨signer_eq, endpoints_eq, credentials_eq, now_eq, cache_eq, correspondence_eq, told,
    idle⟩ := ends
  -- one call after the others does what the turn has done
  have comes : first.calls (calls ++ [call]) =
      ({ (first.calls calls).1.before call with cache, provider := correspondence },
        (first.calls calls).2 ++ [result]) := by
    rw [Session.calls_concat, Session.call_eq_of_served served]
  constructor
  · exact List.pairwise_append.mpr ⟨serial.ordered, List.pairwise_singleton _ _,
      fun earlier member _ same => List.mem_singleton.mp same ▸ last earlier member⟩
  · rw [now_eq]
    intro earlier member
    rcases List.mem_append.mp member with member | same
    · exact serial.past earlier member
    · exact List.mem_singleton.mp same ▸ past
  · rw [comes, signer_eq]
    exact serial.signer_eq
  · rw [comes, endpoints_eq]
    exact serial.endpoints_eq
  · rw [comes, credentials_eq]
    exact serial.credentials_eq
  · rw [comes, cache_eq]
  · rw [comes, correspondence_eq]
  · rw [comes]
    exact told.trans (serial.results_sublist.append (List.Sublist.refl _))
  · rw [idle]
    nofun

theorem Serial.wait (serial : Serial first callers calls) {now : Instant}
    (later : callers.now ≤ now) : Serial first { callers with now, line } calls :=
  ⟨serial.ordered, fun call member => Int.le_trans (serial.past call member) later,
    serial.signer_eq, serial.endpoints_eq, serial.credentials_eq, serial.cache_eq,
    serial.correspondence_eq, serial.results_sublist, fun caller request pending => by
      obtain ⟨reading, past, rest⟩ := serial.pending caller request pending
      exact ⟨reading, Int.le_trans past later, rest⟩⟩

/-- A turn ends at once, or an exchange begins that is needed. -/
theorem Serial.serve (serial : Serial first callers calls) (idle : callers.exchange = none) :
    ∃ more, Serial first (callers.serve caller) (calls ++ more) := by
  cases usable : callers.cache.usable? callers.now with
  | some token =>
    obtain ⟨cached, lasting⟩ := TokenCache.usable?_eq_some_iff.mp usable
    rw [serve_of_lasting cached lasting]
    have ends : TurnEnds callers (callers.report caller (.ok token.text)) _ _ (.ok token.text) :=
      ⟨rfl, rfl, rfl, rfl, serial.cache_eq, serial.correspondence_eq, by simp [report], idle⟩
    exact ⟨[⟨callers.now, none⟩], serial.turn (.kept (serial.cache_eq ▸ cached) lasting)
      serial.past (Int.le_refl _) ends⟩
  | none =>
    have due := TokenCache.usable?_eq_none_iff.mp usable
    rcases exists_tokenRequest_or callers.signer callers.endpoints callers.now
        callers.credentials with ⟨-, request, asked⟩ | ⟨fault, fails⟩
    · rw [serve_of_asked due asked]
      refine ⟨[], ?_⟩
      rw [List.append_nil]
      -- nothing was told yet; the call is made up when the exchange ends
      refine { serial with pending := fun _ _ pending => ?_ }
      cases pending
      exact ⟨callers.now, Int.le_refl _, serial.past, due, asked⟩
    · rw [serve_of_unsigned due fails.tokenRequest]
      have ends : TurnEnds callers (callers.report caller (.error (.cloud fault))) _ _
          (.error (.cloud fault)) :=
        ⟨rfl, rfl, rfl, rfl, serial.cache_eq, serial.correspondence_eq, by simp [report], idle⟩
      rw [serial.signer_eq, serial.endpoints_eq, serial.credentials_eq] at fails
      exact ⟨[⟨callers.now, none⟩], serial.turn (.unsigned (serial.cache_eq ▸ due) fails)
        serial.past (Int.le_refl _) ends⟩

theorem Serial.receive (serial : Serial first callers calls) (delivery : Delivery)
    (pending : callers.exchange = some (caller, request)) :
    ∃ call, Serial first
      ({ callers.release request delivery with
        cache := (callers.cache.receive (tokenOf callers.endpoints delivery)).1 }.report caller
          (callers.cache.receive (tokenOf callers.endpoints delivery)).2) (calls ++ [call]) := by
  obtain ⟨reading, past, last, due, asked⟩ := serial.pending caller request pending
  rw [serial.signer_eq, serial.endpoints_eq, serial.credentials_eq] at asked
  rw [serial.cache_eq] at due
  refine ⟨⟨reading, delivery⟩, ?_⟩
  cases answer : tokenOf callers.endpoints delivery with
  | ok token =>
    exact serial.turn (.obtained due asked (serial.endpoints_eq ▸ answer)) last past
      ⟨rfl, rfl, rfl, rfl, rfl, congrArg (· ++ _) serial.correspondence_eq,
        by simp [report, release, TokenCache.receive], rfl⟩
  | error error =>
    exact serial.turn (.refused due asked (serial.endpoints_eq ▸ answer)) last past
      ⟨rfl, rfl, rfl, rfl, serial.cache_eq, congrArg (· ++ _) serial.correspondence_eq,
        by simp [report, release, TokenCache.receive], rfl⟩

theorem Serial.abandon (serial : Serial first callers calls)
    (pending : callers.exchange = some (caller, request)) :
    ∃ call, Serial first (callers.release request none) (calls ++ [call]) := by
  obtain ⟨reading, past, last, due, asked⟩ := serial.pending caller request pending
  rw [serial.signer_eq, serial.endpoints_eq, serial.credentials_eq] at asked
  rw [serial.cache_eq] at due
  exact ⟨⟨reading, none⟩, serial.turn (.refused due asked rfl) last past
    ⟨rfl, rfl, rfl, rfl, serial.cache_eq, congrArg (· ++ _) serial.correspondence_eq,
      List.sublist_append_left _ _, rfl⟩⟩

theorem Serial.step (serial : Serial first callers calls)
    (moved : Moved callers move after) : ∃ more, Serial first after (calls ++ more) := by
  cases moved with
  | waited later => exact ⟨[], by rw [List.append_nil]; exact serial.wait later⟩
  | arrived | left => exact ⟨[], by rw [List.append_nil]; exact serial.wait (Int.le_refl _)⟩
  | served idle => exact (serial.wait (Int.le_refl _)).serve idle
  | received delivery pending =>
    obtain ⟨call, next⟩ := serial.receive delivery pending
    exact ⟨[call], next⟩
  | abandoned pending =>
    obtain ⟨call, next⟩ := serial.abandon pending
    exact ⟨[call], next⟩

theorem Serial.run (serial : Serial first callers calls) (run : Run callers moves after) :
    ∃ calls, Serial first after calls := by
  induction run generalizing calls with
  | done => exact ⟨calls, serial⟩
  | next moved _ ih =>
    obtain ⟨more, next⟩ := serial.step (moved_of_step? moved)
    exact ih next

/-- A token is kept, and nobody waits for an exchange. -/
structure Supplied (token : Token) (callers : Callers) : Prop where
  cached : callers.cache = some token
  idle : callers.exchange = none

/-- The answers that were given from one state to another all are a token. -/
def TellsOnly (token : Token) (callers after : Callers) : Prop :=
  ∃ told, after.results = callers.results ++ told ∧ ∀ answer ∈ told, answer.2 = .ok token.text

theorem TellsOnly.refl : TellsOnly token callers callers :=
  ⟨[], (List.append_nil _).symm, nofun⟩

theorem TellsOnly.trans {middle : Callers} (one : TellsOnly token callers middle)
    (other : TellsOnly token middle after) : TellsOnly token callers after := by
  obtain ⟨told, results, only⟩ := one
  obtain ⟨more, later, onlyMore⟩ := other
  refine ⟨told ++ more, by rw [later, results, List.append_assoc], fun answer member => ?_⟩
  rcases List.mem_append.mp member with member | member
  · exact only answer member
  · exact onlyMore answer member

theorem Supplied.step (supplied : Supplied token callers) (moved : Moved callers move after)
    (lasting : TokenCache.margin < token.left callers.now) :
    Supplied token after ∧ after.correspondence = callers.correspondence ∧
      TellsOnly token callers after ∧ after.now = move.reading?.getD callers.now := by
  obtain ⟨cached, idle⟩ := supplied
  cases moved with
  | waited | arrived | left => exact ⟨⟨cached, idle⟩, rfl, .refl, rfl⟩
  | @served caller line =>
    have turn : { callers with line }.serve caller =
        { callers with line }.report caller (.ok token.text) := serve_of_lasting cached lasting
    rw [turn]
    refine ⟨⟨cached, idle⟩, rfl, ⟨[(caller, .ok token.text)], rfl, fun answer member => ?_⟩, rfl⟩
    rw [List.mem_singleton.mp member]
  | received _ pending | abandoned pending =>
    rw [idle] at pending
    cases pending

theorem Supplied.run (supplied : Supplied token callers) (run : Run callers moves after)
    (lasting : ∀ reading ∈ callers.now :: moves.filterMap (·.reading?),
      TokenCache.margin < token.left reading) :
    Supplied token after ∧ after.correspondence = callers.correspondence ∧
      TellsOnly token callers after := by
  induction run with
  | done => exact ⟨supplied, rfl, .refl⟩
  | @next callers middle after move moves moved _ ih =>
    obtain ⟨next, silent, told, now⟩ :=
      supplied.step (moved_of_step? moved) (lasting _ (List.mem_cons_self ..))
    have onward : ∀ reading ∈ middle.now :: moves.filterMap (·.reading?),
        reading ∈ callers.now :: (move :: moves).filterMap (·.reading?) := by
      rw [now, List.filterMap_cons]
      cases move.reading? with
      | none => exact fun _ member => member
      | some reading => exact fun _ member => List.mem_cons_of_mem _ member
    obtain ⟨last, stillSilent, toldLater⟩ :=
      ih next fun reading member => lasting reading (onward reading member)
    exact ⟨last, stillSilent.trans silent, told.trans toldLater⟩

end Callers

/-- A key that does not sign asks the provider for nothing, though there is no token. -/
theorem nothing_asked_with_useless_key :
    ¬ ∀ (signer : Signer) (endpoints : Endpoints) (credentials : Credentials) (now : Instant)
      (earlier : List TokenCall) (call : TokenCall),
      let before := ((Session.fresh signer endpoints credentials now).calls earlier).1
      (before.call call).1.provider.length = before.provider.length + 1 ↔
        before.cache.Due call.reading := by
  intro claimed
  have asked := (claimed .sound .standard (.serviceAccount ⟨"ajekey123", "ajesa456", "-----BEGIN"⟩)
    ⟨0⟩ [] ⟨⟨0⟩, none⟩).mpr fun _ cached => nomatch (show none = some _ from cached)
  revert asked
  decide +kernel

/-- Every call for a token is lawful, whatever came before it. Callers at once come to where
calls one after the other lead. While the token that is kept will do, the provider is not asked
for another, however many callers there are. -/
theorem token_calls_lawful (signer : Signer) (endpoints : Endpoints) (credentials : Credentials)
    (now : Instant) :
    (∀ earlier call,
      let before := ((Session.fresh signer endpoints credentials now).calls earlier).1
      before.Lawful call (before.call call).1 (before.call call).2) ∧
    ∀ moves callers, (Callers.start signer endpoints credentials now).Run moves callers →
      (∃ calls, Callers.Serial (.fresh signer endpoints credentials now) callers calls) ∧
      ∀ token, callers.cache = some token → callers.exchange = none →
        ∀ later after, callers.Run later after →
          (∀ reading ∈ callers.now :: later.filterMap (·.reading?),
            TokenCache.margin < token.left reading) →
          after.cache = some token ∧ after.correspondence = callers.correspondence ∧
            callers.TellsOnly token after := by
  refine ⟨fun earlier call => ?_, fun moves callers run => ⟨?_, ?_⟩⟩
  · exact (Session.follows_calls (Session.follows_fresh ..) earlier).lawful call
  · exact (Callers.Serial.start signer endpoints credentials now).run run
  · intro token cached idle later after onward lasting
    obtain ⟨supplied, silent, told⟩ := Callers.Supplied.run ⟨cached, idle⟩ onward lasting
    exact ⟨supplied.cached, silent, told⟩

theorem token_calls_lawful_of_shared_refresh :
    let request : Request := ⟨.post, Endpoints.standard.tokens, none, .password "y0"⟩
    let reply : Reply :=
      ⟨200, "\x7b\"iamToken\":\"T1\",\"expiresAt\":\"1970-01-01T01:00:00Z\"\x7d"⟩
    let token : Token := ⟨"T1", ⟨3600, 0, by decide, by decide, by decide⟩⟩
    let callers : Callers := ⟨.sound, .standard, .password "y0", some token, .ofSecond 0, [2], none,
      [(request, some reply)], [(1, .ok "T1")]⟩
    let after : Callers := ⟨.sound, .standard, .password "y0", some token, .ofSecond 3299, [], none,
      [(request, some reply)], [(1, .ok "T1"), (2, .ok "T1"), (3, .ok "T1")]⟩
    let later : List CallersMove := [.serve, .wait (.ofSecond 3299), .arrive 3, .serve]
    (Callers.start .sound .standard (.password "y0") (.ofSecond 0)).Run
      [.arrive 1, .arrive 2, .serve, .receive (some reply)] callers ∧
    callers.Run later after ∧
    (∀ reading ∈ callers.now :: later.filterMap (·.reading?),
      TokenCache.margin < token.left reading) ∧
    (∃ calls,
      Callers.Serial (.fresh .sound .standard (.password "y0") (.ofSecond 0)) callers calls) ∧
    after.correspondence = callers.correspondence ∧ callers.TellsOnly token after := by
  intro request reply token callers after later
  have given : tokenOf Endpoints.standard (some reply) = .ok token := by decide +kernel
  have received :
      (Callers.mk .sound .standard (.password "y0") none (.ofSecond 0) [2] (some (1, request)) []
        []).step? (.receive (some reply)) = some callers := by
    simp only [Callers.step?, Option.map_some, given]
    rfl
  have run : (Callers.start .sound .standard (.password "y0") (.ofSecond 0)).Run
      [.arrive 1, .arrive 2, .serve, .receive (some reply)] callers :=
    .next rfl (.next rfl (.next rfl (.next received .done)))
  have lasting : ∀ reading ∈ callers.now :: later.filterMap (·.reading?),
      TokenCache.margin < token.left reading := by
    decide +kernel
  have waited : ∀ callers : Callers, callers.now = .ofSecond 0 →
      callers.step? (.wait (.ofSecond 3299)) = some { callers with now := .ofSecond 3299 } :=
    fun callers now => if_pos (by rw [now]; decide)
  have onward : callers.Run later after :=
    .next (congrArg some (Callers.serve_of_lasting rfl (by decide +kernel)))
      (.next (waited _ rfl) (.next rfl
        (.next (congrArg some (Callers.serve_of_lasting rfl (by decide +kernel))) .done)))
  obtain ⟨serial, supplied⟩ :=
    (token_calls_lawful .sound .standard (.password "y0") (.ofSecond 0)).2 _ callers run
  obtain ⟨-, silent, told⟩ := supplied token rfl rfl later after onward lasting
  exact ⟨run, onward, lasting, serial, silent, told⟩

end PowerRota.Provider
