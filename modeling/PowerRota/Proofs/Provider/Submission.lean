import Mathlib.Data.List.Chain
import PowerRota.Proofs.Provider.Tokens

/-! One submission for each start or stop.

The requests with a token and their deliveries, in the order in which they were sent, tell how
far a mutation has got: its stage is what the last delivery makes of it. -/

set_option autoImplicit false

namespace PowerRota.Provider

open PowerRota.Calendar

/-- What a delivery tells of an operation, if the request got through and was a success. -/
def told? : Delivery → Option Operation
  | some reply =>
      if isSuccess reply.status then
        match (Json.read? reply.body).map Operation.decode with
        | some (.ok operation) => some operation
        | _ => none
      else none
  | none => none

def Request.bare (request : Request) : Request := { request with authorization := none }

def authorized (correspondence : Correspondence) : Correspondence :=
  correspondence.filter (·.1.authorization.isSome)

section Rules

variable {purpose : CallPurpose} {url : String} {delivery : Delivery} {operation : Operation}

theorem received_of_told (told : told? delivery = some operation) :
    received purpose url Operation.decode delivery = .ok operation := by
  unfold told? at told
  split at told
  next reply =>
    split at told
    next success =>
      split at told
      next read =>
        cases told
        simp only [received, success, if_true, read]
      next => cases told
    next => cases told
  next => cases told

theorem received_of_untold (purpose : CallPurpose) (url : String)
    (untold : told? delivery = none) :
    ∃ fault, received purpose url Operation.decode delivery = .error (.cloud fault) := by
  unfold received
  split
  next => exact ⟨_, rfl⟩
  next reply =>
    split
    next success =>
      split
      next read => simp [told?, success, read] at untold
      next => exact ⟨_, rfl⟩
    next => exact ⟨_, rfl⟩

end Rules

namespace Mutation

variable {mutation : Mutation} {endpoints : Endpoints} {request : Request} {delivery : Delivery}
  {operation : Operation}

theorem receive_of_told (next : mutation.request? endpoints = some request)
    (told : told? delivery = some operation) :
    mutation.receive endpoints (.ok delivery) =
      { mutation with stage := mutation.stageAfter operation } := by
  simp only [receive, next]
  rw [show (do received mutation.purpose request.url Operation.decode (← Except.ok delivery)) =
    Except.ok operation from received_of_told told]

theorem receive_of_untold (next : mutation.request? endpoints = some request)
    (untold : told? delivery = none) :
    ∃ fault, mutation.receive endpoints (.ok delivery) =
      { mutation with stage := .ended (.error (.cloud fault)) } := by
  obtain ⟨fault, failed⟩ :=
    received_of_untold mutation.purpose request.url untold
  refine ⟨fault, ?_⟩
  simp only [receive, next]
  rw [show (do received mutation.purpose request.url Operation.decode (← Except.ok delivery)) =
    Except.error (.cloud fault) from failed]

theorem ended_of_request? (next : mutation.request? endpoints = none) :
    ∃ result, mutation.stage = .ended result := by
  unfold request? at next
  split at next
  next => cases next
  next => cases next
  next result ended => exact ⟨result, ended⟩

theorem bare_of_request? (next : mutation.request? endpoints = some request) :
    request.bare = request := by
  unfold request? at next
  split at next
  next => exact Option.some.inj next ▸ rfl
  next => exact Option.some.inj next ▸ rfl
  next => cases next

end Mutation

/-! What the answers so far make of a mutation. -/

/-- The last answer but not the end: it tells of an operation that is not done. -/
def Unfinished (exchange : Request × Delivery) : Prop :=
  ∃ operation, told? exchange.2 = some operation ∧ operation.done = false

/-- All that an answer can make of a mutation. -/
inductive Answered (purpose : CallPurpose) (exchange : Request × Delivery) :
    MutationStage → Prop where
  | unfinished {operation : Operation} (told : told? exchange.2 = some operation)
      (goesOn : operation.done = false) : Answered purpose exchange (.polling operation.id)
  | finished {operation : Operation} (told : told? exchange.2 = some operation)
      (done : operation.done = true) (faultless : operation.fault = none) :
      Answered purpose exchange (.ended (.ok ()))
  | faulty {operation : Operation} {fault : OperationFault}
      (told : told? exchange.2 = some operation) (done : operation.done = true)
      (faulty : operation.fault = some fault) :
      Answered purpose exchange
        (.ended (.error (.cloud (.operation purpose operation.id fault.code fault.message))))
  | untold {fault : CloudFault} (untold : told? exchange.2 = none) :
      Answered purpose exchange (.ended (.error (.cloud fault)))

namespace Answered

variable {purpose : CallPurpose} {exchange : Request × Delivery} {stage : MutationStage}
  {operation : Operation} {fault : OperationFault}

theorem ok_iff (answered : Answered purpose exchange stage) :
    stage = .ended (.ok ()) ↔ ∃ operation, told? exchange.2 = some operation ∧
      operation.done = true ∧ operation.fault = none := by
  cases answered with
  | finished told done faultless => exact iff_of_true rfl ⟨_, told, done, faultless⟩
  | unfinished told goesOn => simp [told, goesOn]
  | faulty told done faulty => simp [told, faulty]
  | untold untold => simp [untold]

theorem of_untold (answered : Answered purpose exchange stage)
    (untold : told? exchange.2 = none) : ∃ fault, stage = .ended (.error (.cloud fault)) := by
  cases answered with
  | untold => exact ⟨_, rfl⟩
  | unfinished told | finished told | faulty told => simp [untold] at told

theorem of_faulty (answered : Answered purpose exchange stage)
    (told : told? exchange.2 = some operation) (done : operation.done = true)
    (faulty : operation.fault = some fault) :
    stage = .ended (.error (.cloud
      (.operation purpose operation.id fault.code fault.message))) := by
  cases answered with
  | unfinished other | finished other | faulty other | untold other => simp_all

theorem of_unfinished (answered : Answered purpose exchange stage)
    (told : told? exchange.2 = some operation) (goesOn : operation.done = false) :
    stage = .polling operation.id := by
  cases answered with
  | unfinished other | finished other | faulty other | untold other => simp_all

theorem ends (answered : Answered purpose exchange stage) :
    (∃ result, stage = .ended result) ∨ Unfinished exchange := by
  cases answered with
  | unfinished told goesOn => exact .inr ⟨_, told, goesOn⟩
  | finished | faulty | untold => exact .inl ⟨_, rfl⟩

end Answered

theorem answered_of_receive {mutation : Mutation} {endpoints : Endpoints} {request : Request}
    (next : mutation.request? endpoints = some request) (exchange : Request × Delivery) :
    (mutation.receive endpoints (.ok exchange.2)).resource = mutation.resource ∧
      (mutation.receive endpoints (.ok exchange.2)).action = mutation.action ∧
      Answered mutation.purpose exchange (mutation.receive endpoints (.ok exchange.2)).stage := by
  cases told : told? exchange.2 with
  | none =>
    obtain ⟨fault, received⟩ := Mutation.receive_of_untold next told
    rw [received]
    exact ⟨rfl, rfl, .untold told⟩
  | some operation =>
    rw [Mutation.receive_of_told next told]
    refine ⟨rfl, rfl, ?_⟩
    show Answered _ _ (mutation.stageAfter operation)
    unfold Mutation.stageAfter
    split
    next done =>
      split
      next fault faulty => exact .faulty told done faulty
      next faultless => exact .finished told done faultless
    next goesOn => exact .unfinished told (Bool.not_eq_true _ ▸ goesOn)

/-- How a mutation goes: the requests sent for it, with their deliveries, and its stage. -/
inductive Course (endpoints : Endpoints) (resource : Resource) (action : Action) :
    Correspondence → MutationStage → Prop where
  | start : Course endpoints resource action [] .submitting
  | next {sent : Correspondence} {stage after : MutationStage} {request : Request}
      {exchange : Request × Delivery} (course : Course endpoints resource action sent stage)
      (next : (Mutation.mk resource action stage).request? endpoints = some request)
      (asked : exchange.1.bare = request)
      (answered : Answered ⟨action.label, resource⟩ exchange after) :
      Course endpoints resource action (sent ++ [exchange]) after

/-- A request asks about the operation that the delivery before it told of. -/
def PolledAfter (endpoints : Endpoints) (earlier later : Request × Delivery) : Prop :=
  ∃ operation, told? earlier.2 = some operation ∧ operation.done = false ∧
    later.1.bare = ⟨.get, endpoints.operation operation.id, none, .none⟩

section Courses

variable {endpoints : Endpoints} {resource : Resource} {action : Action} {sent : Correspondence}
  {stage : MutationStage} {request : Request} {exchange : Request × Delivery}

theorem Course.unfinished (course : Course endpoints resource action sent stage)
    (next : (Mutation.mk resource action stage).request? endpoints = some request) :
    ∀ exchange ∈ sent, Unfinished exchange := by
  induction course generalizing request with
  | start => nofun
  | next _ asking _ answered ih =>
    intro exchange member
    rcases List.mem_append.mp member with earlier | last
    · exact ih asking exchange earlier
    · rw [List.mem_singleton.mp last]
      cases answered with
      | unfinished told goesOn => exact ⟨_, told, goesOn⟩
      | finished | faulty | untold => cases next

theorem Course.last (course : Course endpoints resource action sent stage) :
    sent = [] ∧ stage = .submitting ∨
      ∃ earlier exchange, sent = earlier ++ [exchange] ∧
        (∀ exchange ∈ earlier, Unfinished exchange) ∧
        Answered ⟨action.label, resource⟩ exchange stage := by
  cases course with
  | start => exact .inl ⟨rfl, rfl⟩
  | next course next _ answered => exact .inr ⟨_, _, rfl, course.unfinished next, answered⟩

theorem Course.submitted (course : Course endpoints resource action sent stage) :
    ∀ first ∈ sent.head?,
      first.1.bare = ⟨.post, endpoints.action resource action, none, .empty⟩ := by
  induction course with
  | start => nofun
  | @next sent _ _ _ exchange course next asked _ ih =>
    cases sent with
    | nil =>
      obtain ⟨-, rfl⟩ | ⟨_, _, split, -⟩ := course.last
      · intro first member
        obtain rfl : exchange = first := Option.some.inj member
        exact asked.trans (Option.some.inj next).symm
      · simp at split
    | cons => exact ih

theorem Course.polled (course : Course endpoints resource action sent stage) :
    sent.IsChain (PolledAfter endpoints) := by
  induction course with
  | start => exact .nil
  | @next sent stage _ _ exchange course next asked _ ih =>
    refine List.isChain_append.mpr ⟨ih, .singleton _, fun earlier before later after => ?_⟩
    obtain rfl : exchange = later := Option.some.inj after
    obtain ⟨rfl, -⟩ | ⟨_, last, rfl, -, answered⟩ := course.last
    · cases before
    · rw [List.getLast?_concat] at before
      obtain rfl : last = earlier := Option.some.inj before
      cases answered with
      | unfinished told goesOn =>
        exact ⟨_, told, goesOn, asked.trans (Option.some.inj next).symm⟩
      | finished | faulty | untold => cases next

theorem method_of_polled (polled : sent.IsChain (PolledAfter endpoints)) :
    ∀ poll ∈ sent.tail, poll.1.method = .get := by
  induction sent with
  | nil => nofun
  | cons first rest ih =>
    cases rest with
    | nil => nofun
    | cons second rest =>
      obtain ⟨⟨operation, -, -, asked⟩, polled⟩ := List.isChain_cons_cons.mp polled
      intro poll member
      rcases List.mem_cons.mp member with rfl | later
      · exact congrArg Request.method asked
      · exact ih polled poll later

/-- One submission, then one poll for each answer that tells of an operation that is not done.
`budget` is how many requests there may be at most. -/
structure SubmittedOnce (endpoints : Endpoints) (resource : Resource) (action : Action)
    (budget : Nat) (sent : Correspondence) (stage : MutationStage) : Prop where
  begun : 0 < budget → sent ≠ []
  submitted : ∀ first ∈ sent.head?,
    first.1.bare = ⟨.post, endpoints.action resource action, none, .empty⟩
  polls : ∀ poll ∈ sent.tail, poll.1.method = .get
  polled : sent.IsChain (PolledAfter endpoints)
  ok_iff : stage = .ended (.ok ()) ↔
    ∃ earlier last operation, sent = earlier ++ [last] ∧
      (∀ exchange ∈ earlier, Unfinished exchange) ∧ told? last.2 = some operation ∧
      operation.done = true ∧ operation.fault = none
  /-- An answer that tells of no operation is the last, and makes the mutation fail. -/
  untold : ∀ exchange ∈ sent, told? exchange.2 = none →
    sent.getLast? = some exchange ∧ ∃ fault, stage = .ended (.error (.cloud fault))
  /-- So does a fault of an operation that is done. -/
  faulty : ∀ exchange ∈ sent, ∀ operation fault, told? exchange.2 = some operation →
    operation.done = true → operation.fault = some fault →
    sent.getLast? = some exchange ∧
      stage = .ended (.error (.cloud
        (.operation ⟨action.label, resource⟩ operation.id fault.code fault.message)))
  /-- While the operation is not done it is asked about next, whatever its fault. -/
  goesOn : ∀ last ∈ sent.getLast?, ∀ operation, told? last.2 = some operation →
    operation.done = false → stage = .polling operation.id
  /-- Only the budget leaves a mutation without an end. -/
  ends : (∃ result, stage = .ended result) ∨
    sent.length = budget ∧ ∀ exchange ∈ sent, Unfinished exchange
  within : sent.length ≤ budget

theorem Course.submittedOnce {budget : Nat}
    (course : Course endpoints resource action sent stage) (within : sent.length ≤ budget)
    (spent : (∃ result, stage = .ended result) ∨ sent.length = budget) :
    SubmittedOnce endpoints resource action budget sent stage := by
  have polls := method_of_polled course.polled
  obtain ⟨rfl, rfl⟩ | ⟨earlier, last, rfl, unfinished, answered⟩ := course.last
  · have idle : 0 = budget := spent.resolve_left nofun
    exact ⟨fun allowed => absurd idle (Nat.ne_of_lt allowed), course.submitted, polls,
      course.polled, by simp, nofun, nofun, nofun, .inr ⟨idle, nofun⟩, within⟩
  -- all but the last answer tell of an operation that is not done
  have only : ∀ exchange ∈ earlier ++ [last], ¬ Unfinished exchange → exchange = last := by
    intro exchange member finished
    rcases List.mem_append.mp member with member | member
    · exact absurd (unfinished exchange member) finished
    · exact List.mem_singleton.mp member
  refine ⟨fun _ => List.concat_ne_nil _ _, course.submitted, polls, course.polled, ?_, ?_, ?_, ?_,
    ?_, within⟩
  · rw [answered.ok_iff]
    constructor
    · rintro ⟨operation, done⟩
      exact ⟨earlier, last, operation, rfl, unfinished, done⟩
    · rintro ⟨_, _, operation, split, -, done⟩
      obtain ⟨-, same⟩ := List.append_inj' split rfl
      cases same
      exact ⟨operation, done⟩
  · intro exchange member untold
    obtain rfl := only exchange member fun ⟨_, told, _⟩ => by simp [untold] at told
    exact ⟨List.getLast?_concat, answered.of_untold untold⟩
  · intro exchange member operation fault told done faulty
    obtain rfl := only exchange member fun ⟨_, other, goesOn⟩ => by simp_all
    exact ⟨List.getLast?_concat, answered.of_faulty told done faulty⟩
  · intro exchange member operation told goesOn
    rw [List.getLast?_concat] at member
    cases member
    exact answered.of_unfinished told goesOn
  · rcases spent with ended | spent
    · exact .inl ended
    · refine answered.ends.imp_right fun goesOn => ⟨spent, fun exchange member => ?_⟩
      by_contra finished
      exact finished (only exchange member finished ▸ goesOn)

end Courses

/-! Sessions. -/

namespace Session

variable {session after : Session Correspondence}
  {rule : Correspondence → Request → Delivery} {mutation : Mutation} {request : Request}
  {endpoints : Endpoints} {resource : Resource} {action : Action}

theorem token_said (recorded : session.answer = Correspondence.answer rule) :
    ∃ cache said result, authorized said = [] ∧
      session.token = ({ session with cache, provider := session.provider ++ said }, result) := by
  obtain ⟨cache, correspondence, result, served⟩ := session.exists_served rule
  have same := token_eq_of_served recorded served
  cases served with
  | kept | unsigned =>
    exact ⟨session.cache, [], _, rfl, by rw [same, List.append_nil]⟩
  | refused _ asked | obtained _ asked =>
    obtain ⟨-, -, bare⟩ := posted_of_tokenRequest asked
    refine ⟨_, [_], _, ?_, same⟩
    simp [authorized, bare]

theorem advance_of_token (recorded : session.answer = Correspondence.answer rule)
    (next : mutation.request? session.endpoints = some request)
    (supplied : ∃ text, session.token.2 = .ok text) :
    ∃ cache said authorization delivery, authorized said = [] ∧
      session.advance mutation =
        ({ session with
            cache
            provider := session.provider ++ said ++
              [({ request with authorization := some authorization }, delivery)] },
          mutation.receive session.endpoints (.ok delivery)) := by
  obtain ⟨cache, said, result, bare, same⟩ := session.token_said recorded
  obtain ⟨text, ok⟩ := supplied
  rw [same] at ok
  obtain rfl : result = .ok text := ok
  refine ⟨cache, said, "Bearer " ++ text, rule (session.provider ++ said)
    { request with authorization := some ("Bearer " ++ text) }, bare, ?_⟩
  simp only [advance, next, send, same, deliver, recorded, Correspondence.answer]

theorem followAt_concat (session : Session Correspondence) (earlier : List Instant)
    (now : Instant) (mutation : Mutation) :
    session.followAt (earlier ++ [now]) mutation =
      { (session.followAt earlier mutation).1 with now }.advance
        (session.followAt earlier mutation).2 := by
  induction earlier generalizing session mutation with
  | nil => rfl
  | cons first earlier ih => exact ih _ _

/-! What a step leaves as it was. -/

/-- Nothing but the cache and the provider have changed. -/
structure Framed (session after : Session Correspondence) : Prop where
  signer_eq : after.signer = session.signer
  endpoints_eq : after.endpoints = session.endpoints
  credentials_eq : after.credentials = session.credentials
  now_eq : after.now = session.now
  answer_eq : after.answer = session.answer

theorem exchange_framed (session : Session Correspondence) : Framed session session.exchange.1 := by
  unfold exchange
  split <;> exact ⟨rfl, rfl, rfl, rfl, rfl⟩

theorem token_framed (session : Session Correspondence) : Framed session session.token.1 := by
  obtain ⟨signer, endpoints, credentials, now, answer⟩ := session.exchange_framed
  unfold token
  split
  next => exact ⟨rfl, rfl, rfl, rfl, rfl⟩
  next => exact ⟨signer, endpoints, credentials, now, answer⟩

theorem send_framed (session : Session Correspondence) (request : Request) :
    Framed session (session.send request).1 := by
  have framed := session.token_framed
  unfold send
  split
  all_goals
    next same =>
      rw [same] at framed
      exact ⟨framed.signer_eq, framed.endpoints_eq, framed.credentials_eq, framed.now_eq,
        framed.answer_eq⟩

theorem advance_framed (session : Session Correspondence) (mutation : Mutation) :
    Framed session (session.advance mutation).1 := by
  unfold advance
  split
  next => exact ⟨rfl, rfl, rfl, rfl, rfl⟩
  next request _ =>
    obtain ⟨signer, endpoints, credentials, now, answer⟩ := session.send_framed request
    exact ⟨signer, endpoints, credentials, now, answer⟩

theorem follow_eq_followAt (fuel : Nat) (session : Session Correspondence) (mutation : Mutation) :
    session.follow fuel mutation =
      session.followAt (List.replicate fuel session.now) mutation := by
  induction fuel generalizing session mutation with
  | zero => rfl
  | succ fuel ih =>
    rw [List.replicate_succ]
    cases next : mutation.request? session.endpoints with
    | none =>
      have still : session.follow fuel mutation = (session, mutation) := by
        cases fuel <;> simp only [follow, next]
      simp only [follow, followAt, advance, next, ← ih, still]
    | some request =>
      have now := (session.send_framed request).now_eq
      simp only [follow, followAt, advance, next, ih, now]

/-- Whenever a request is to be sent, there is a token for it. -/
def TokensAvailable (session : Session Correspondence) (mutation : Mutation)
    (readings : List Instant) : Prop :=
  ∀ earlier now later, readings = earlier ++ now :: later →
    let underway := session.followAt earlier mutation
    underway.2.request? underway.1.endpoints ≠ none →
      ∃ text, { underway.1 with now }.token.2 = .ok text

/-- The credentials can be presented at any time, and every request for a token is answered with
one, of any expiry. -/
structure Granted (session : Session Correspondence)
    (rule : Correspondence → Request → Delivery) : Prop where
  presents : ∀ reading, session.Presents reading
  granted : ∀ correspondence request, request.authorization = none →
    ∃ token, tokenOf session.endpoints (rule correspondence request) = .ok token

theorem Granted.token (granted : Granted session rule)
    (recorded : session.answer = Correspondence.answer rule) :
    ∃ text, session.token.2 = .ok text := by
  obtain ⟨cache, correspondence, result, served⟩ := session.exists_served rule
  rw [token_eq_of_served recorded served]
  cases served with
  | kept | obtained => exact ⟨_, rfl⟩
  | unsigned _ fails => exact absurd (granted.presents session.now) fails.not_presentable
  | refused _ asked failed =>
    obtain ⟨-, -, bare⟩ := posted_of_tokenRequest asked
    obtain ⟨token, given⟩ := granted.granted session.provider _ bare
    rw [given] at failed
    cases failed

theorem Granted.followAt (granted : Granted session rule)
    (recorded : session.answer = Correspondence.answer rule) (readings : List Instant)
    (mutation : Mutation) :
    Granted (session.followAt readings mutation).1 rule ∧
      (session.followAt readings mutation).1.answer = Correspondence.answer rule := by
  induction readings generalizing session mutation with
  | nil => exact ⟨granted, recorded⟩
  | cons now readings ih =>
    have framed := advance_framed { session with now } mutation
    refine ih ⟨?_, ?_⟩ (framed.answer_eq.trans recorded) _
    · intro reading
      rw [Presents, framed.signer_eq, framed.endpoints_eq, framed.credentials_eq]
      exact granted.presents reading
    · rw [framed.endpoints_eq]
      exact granted.granted

theorem Granted.tokensAvailable (granted : Granted session rule)
    (recorded : session.answer = Correspondence.answer rule) (mutation : Mutation)
    (readings : List Instant) : session.TokensAvailable mutation readings := by
  intro earlier now later _ underway _
  obtain ⟨⟨presents, given⟩, recorded⟩ := granted.followAt recorded earlier mutation
  exact @Granted.token { underway.1 with now } rule ⟨presents, given⟩ recorded

structure Underway (session : Session Correspondence)
    (rule : Correspondence → Request → Delivery) (resource : Resource) (action : Action)
    (steps : Nat) (after : Session Correspondence) (mutation : Mutation) : Prop where
  recorded : after.answer = Correspondence.answer rule
  endpoints_eq : after.endpoints = session.endpoints
  resource_eq : mutation.resource = resource
  action_eq : mutation.action = action
  course : ∃ said, after.provider = session.provider ++ said ∧
    Course session.endpoints resource action (authorized said) mutation.stage ∧
    (authorized said).length ≤ steps ∧
    ((∃ result, mutation.stage = .ended result) ∨ (authorized said).length = steps)

theorem Underway.start (recorded : session.answer = Correspondence.answer rule) :
    Underway session rule resource action 0 session (.start resource action) :=
  ⟨recorded, rfl, rfl, rfl, [], (List.append_nil _).symm, .start, Nat.le_refl _, .inr rfl⟩

theorem Underway.advance {steps : Nat} {now : Instant}
    (underway : Underway session rule resource action steps after mutation)
    (available : mutation.request? after.endpoints ≠ none →
      ∃ text, { after with now }.token.2 = .ok text) :
    Underway session rule resource action (steps + 1)
      ({ after with now }.advance mutation).1 ({ after with now }.advance mutation).2 := by
  obtain ⟨recorded, endpoints_eq, rfl, rfl, said, provider, course, within, spent⟩ := underway
  cases next : mutation.request? after.endpoints with
  | none =>
    have still : { after with now }.advance mutation = ({ after with now }, mutation) := by
      simp only [Session.advance, next]
    rw [still]
    exact ⟨recorded, endpoints_eq, rfl, rfl, said, provider, course, Nat.le_succ_of_le within,
      .inl (Mutation.ended_of_request? next)⟩
  | some request =>
    obtain ⟨cache, asked, authorization, delivery, bare, step⟩ :=
      @advance_of_token { after with now } rule mutation request recorded next
        (available (by simp [next]))
    let exchange : Request × Delivery :=
      ({ request with authorization := some authorization }, delivery)
    obtain ⟨resource_eq, action_eq, answered⟩ := answered_of_receive next exchange
    have sent : authorized (said ++ asked ++ [exchange]) = authorized said ++ [exchange] := by
      simp only [authorized, List.filter_append] at bare ⊢
      rw [bare, List.append_nil]
      rfl
    -- a mutation that has not ended has sent one request in each step
    have unspent : (authorized said).length = steps := by
      rcases spent with ⟨result, ended⟩ | spent
      · simp [Mutation.request?, ended] at next
      · exact spent
    have same : exchange.1.bare = request := Mutation.bare_of_request? next
    rw [step]
    refine ⟨recorded, endpoints_eq, resource_eq, action_eq, said ++ asked ++ [exchange], ?_, ?_⟩
    · simp only [provider, List.append_assoc]
      rfl
    · rw [sent, List.length_append, unspent]
      exact ⟨course.next (endpoints_eq ▸ next) same answered, Nat.le_refl _, .inr rfl⟩

theorem Underway.followAt (recorded : session.answer = Correspondence.answer rule)
    (readings : List Instant)
    (available : session.TokensAvailable (.start resource action) readings) :
    Underway session rule resource action readings.length
      (session.followAt readings (.start resource action)).1
      (session.followAt readings (.start resource action)).2 := by
  induction readings using List.reverseRecOn with
  | nil => exact .start recorded
  | append_singleton readings now ih =>
    rw [followAt_concat, List.length_append]
    refine (ih fun earlier now later split => ?_).advance (available readings now [] rfl)
    exact available earlier now (later ++ [_]) (by rw [split, List.append_assoc, List.cons_append])

/-- A mutation is submitted once. The provider and the answers are any, and so is what the
session has been used for, as long as there is a token for each request. -/
theorem submitted_once (session : Session Correspondence)
    (rule : Correspondence → Request → Delivery)
    (recorded : session.answer = Correspondence.answer rule) (resource : Resource)
    (action : Action) (readings : List Instant)
    (available : session.TokensAvailable (.start resource action) readings) :
    let after := session.followAt readings (.start resource action)
    (∃ said, after.1.provider = session.provider ++ said ∧
      SubmittedOnce session.endpoints resource action readings.length (authorized said)
        after.2.stage) ∧
    ∀ fuel, readings = List.replicate fuel session.now →
      session.follow fuel (.start resource action) = after := by
  obtain ⟨-, -, -, -, said, provider, course, within, spent⟩ :=
    Underway.followAt recorded readings available
  refine ⟨⟨said, provider, course.submittedOnce within spent⟩, fun fuel still => ?_⟩
  rw [still, follow_eq_followAt]

theorem submitted_once_of_early_fault :
    let token : Delivery := some
      ⟨200, "\x7b\"iamToken\":\"T1\",\"expiresAt\":\"1970-01-01T01:00:00Z\"\x7d"⟩
    let first : Delivery := some ⟨200, "\x7b\"id\":\"op-1\",\"error\":\x7b\"code\":9\x7d\x7d"⟩
    let last : Delivery := some ⟨200, "\x7b\"id\":\"op-2\",\"done\":true\x7d"⟩
    let rule : Correspondence → Request → Delivery := fun _ request =>
      if request.authorization = none then token
      else if request.method = .post then first else last
    let session := start .standard (.password "y0") (.ofSecond 0) (Correspondence.answer rule) []
    let resource : Resource := ⟨.vm, "vm-1", "folder-1"⟩
    let readings : List Instant := [.ofSecond 0, .ofSecond 1, .ofSecond 2]
    session.TokensAvailable (.start resource .start) readings ∧
    (authorized (session.followAt readings (.start resource .start)).1.provider).map
        (fun exchange => (exchange.1.method, exchange.1.url)) =
      [(.post, "https://compute.api.cloud.yandex.net/compute/v1/instances/vm-1:start"),
        (.get, "https://operation.api.cloud.yandex.net/operations/op-1")] ∧
    ∃ said, (session.followAt readings (.start resource .start)).1.provider =
        session.provider ++ said ∧
      SubmittedOnce session.endpoints resource .start readings.length (authorized said)
        (session.followAt readings (.start resource .start)).2.stage := by
  intro token first last rule session resource readings
  have given : tokenOf .standard token =
      .ok ⟨"T1", ⟨3600, 0, by decide, by decide, by decide⟩⟩ := by decide +kernel
  have answers : ∀ said request, request.authorization = none → rule said request = token :=
    fun _ _ bare => if_pos bare
  have granted : Granted session rule :=
    ⟨fun _ => trivial, fun said request bare => ⟨_, by rw [answers said request bare]; exact given⟩⟩
  have available := granted.tokensAvailable rfl (.start resource .start) readings
  obtain ⟨once, -⟩ := submitted_once session rule rfl resource .start readings available
  exact ⟨available, by decide +kernel, once⟩

end Session

end PowerRota.Provider
