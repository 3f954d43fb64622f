import AcmeClient.Client.Request
import AcmeClient.Proofs.Client.Outcome
import AcmeClient.Proofs.Json.Members
import AcmeClient.Proofs.Problem

namespace AcmeClient

/-- The reply is no success, and its body is an object whose last type is that of rejected nonces. -/
def Response.RejectsNonce (reply : Response) : Prop :=
  reply.isOk = false ∧ ∃ listed, Json.listed? reply.body reply.room = some listed ∧
    Assoc.find? "type" listed.reverse = some (.str ProblemKind.badNonce)

/-- What a reply says about the nonce that was asked for. -/
def Response.nonce (reply : Response) : Except Failure String := do
  (← reply.check).expectHeader "Replay-Nonce"

theorem Response.check_eq_ok_iff {reply response : Response} :
    reply.check = .ok response ↔ response = reply ∧ reply.isOk := by
  unfold Response.check
  by_cases accepted : reply.isOk
  · simp [accepted, eq_comm]
  · rw [if_neg accepted]
    split <;> simp [accepted]

theorem Response.json_eq_ok_iff {reply : Response} {value : Json} :
    reply.json = .ok value ↔ Json.read reply.body reply.room = .ok value := by
  unfold Response.json
  split <;> simp_all

/-- A builder that sends nothing itself. -/
def Builder.IsQuiet (build : Builder) : Prop :=
  ∀ nonce world, Exchanged world (Client.outcome (build nonce) world).2 []

namespace Provider

theorem isNonceRejection_iff {reply : Response} {failure : Failure}
    (failed : reply.check = .error failure) :
    isNonceRejection failure ↔ reply.RejectsNonce := by
  unfold Response.check at failed
  have listed : (∃ members, reply.json = .ok (.obj members) ∧
        Assoc.find? "type" members = some (.str ProblemKind.badNonce)) ↔
      ∃ listed, Json.listed? reply.body reply.room = some listed ∧
        Assoc.find? "type" listed.reverse = some (.str ProblemKind.badNonce) := by
    simp only [Response.json_eq_ok_iff, Json.read_eq_obj_iff]
    constructor
    · rintro ⟨_, ⟨listed, lists, rfl⟩, found⟩
      exact ⟨listed, lists, by rwa [Assoc.find?_ofList] at found⟩
    · rintro ⟨listed, lists, found⟩
      exact ⟨_, ⟨listed, lists, rfl⟩, by rwa [Assoc.find?_ofList]⟩
  by_cases accepted : reply.isOk
  · rw [if_pos accepted] at failed
    contradiction
  · rw [if_neg accepted] at failed
    rw [Bool.not_eq_true] at accepted
    simp only [Response.RejectsNonce, accepted, true_and, ← listed]
    cases body : reply.json with
    | ok value =>
        simp only [body, Except.error.injEq] at failed
        subst failure
        simp only [isNonceRejection, Problem.isBadNonce_ofBody_iff, Except.ok.injEq]
    | error other =>
        cases other with
        | fault fault =>
            simp only [body, Except.error.injEq] at failed
            subst failure
            simp only [isNonceRejection, Problem.isBadNonce_ofBody_iff]
            simp
        | defect defect =>
            simp only [body, Except.error.injEq] at failed
            subst failure
            simp [isNonceRejection]

/-- How far an attempt came. -/
inductive Attempt where
  /-- Nobody answered the request for a nonce. -/
  | unheard (failure : Failure)
  /-- The reply to the request for a nonce holds none. -/
  | noNonce (reply : Response) (failure : Failure)
  /-- No body could be built for the nonce. -/
  | unbuilt (reply : Response) (nonce : String) (failure : Failure)
  /-- The body was posted, and nobody answered. -/
  | unanswered (reply : Response) (nonce : String) (url : Json) (body : Bytes) (failure : Failure)
  | answered (reply : Response) (nonce : String) (url : Json) (body : Bytes) (answer : Response)

namespace Attempt

/-- The requests of an attempt, with what they met. -/
def exchanges (newNonce : Json) : Attempt → Transcript
  | .unheard failure => [(.head newNonce, .error failure)]
  | .noNonce reply _ | .unbuilt reply _ _ => [(.head newNonce, .ok reply)]
  | .unanswered reply _ url body failure =>
    [(.head newNonce, .ok reply), (.post url Envelope.mediaType body, .error failure)]
  | .answered reply _ url body answer =>
    [(.head newNonce, .ok reply), (.post url Envelope.mediaType body, .ok answer)]

def result : Attempt → Except Failure Response
  | .unheard failure | .noNonce _ failure | .unbuilt _ _ failure | .unanswered _ _ _ _ failure =>
    .error failure
  | .answered _ _ _ _ answer => answer.check

/-- The answer, if there is one. -/
def answer? : Attempt → Option Response
  | .answered _ _ _ _ answer => some answer
  | _ => none

/-- Whether the answer rejects the nonce and nothing else. -/
def IsRejected (attempt : Attempt) : Prop := ∃ answer ∈ attempt.answer?, answer.RejectsNonce

theorem result_eq_ok_iff {attempt : Attempt} {response : Response} :
    attempt.result = .ok response ↔ attempt.answer? = some response ∧ response.isOk := by
  cases attempt with
  | answered reply nonce url body answer =>
      simp only [result, answer?, Option.some.injEq, Response.check_eq_ok_iff]
      constructor
      · rintro ⟨rfl, accepted⟩
        exact ⟨rfl, accepted⟩
      · rintro ⟨rfl, accepted⟩
        exact ⟨rfl, accepted⟩
  | _ => simp [result, answer?]

/-- What an attempt does in a world: each request meets the next reply, and the body is the one that
is built once for the nonce in the reply to the first request. -/
inductive Made (provider : Provider) (build : Builder) : World → Attempt → World → Prop
  | unheard {world failure} :
      world.nextReply = .error failure →
      Made provider build world (.unheard failure) (world.sent (.head provider.endpoints.newNonce))
  | noNonce {world reply failure} :
      world.nextReply = .ok reply → reply.nonce = .error failure →
      Made provider build world (.noNonce reply failure)
        (world.sent (.head provider.endpoints.newNonce))
  | unbuilt {world reply nonce failure after} :
      world.nextReply = .ok reply → reply.nonce = .ok nonce →
      Client.outcome (build nonce) (world.sent (.head provider.endpoints.newNonce)) =
        (.error failure, after) →
      Made provider build world (.unbuilt reply nonce failure) after
  | unanswered {world reply nonce url body built message failure} :
      world.nextReply = .ok reply → reply.nonce = .ok nonce →
      Client.outcome (build nonce) (world.sent (.head provider.endpoints.newNonce)) =
        (.ok (url, body), built) →
      built.nextReply = .error failure →
      Made provider build world (.unanswered reply nonce url body failure)
        ((built.told Logging.Level.debug "acmelib.request" message).sent
          (.post url Envelope.mediaType body))
  | answered {world reply nonce url body built message answer} :
      world.nextReply = .ok reply → reply.nonce = .ok nonce →
      Client.outcome (build nonce) (world.sent (.head provider.endpoints.newNonce)) =
        (.ok (url, body), built) →
      built.nextReply = .ok answer →
      Made provider build world (.answered reply nonce url body answer)
        ((built.told Logging.Level.debug "acmelib.request" message).sent
          (.post url Envelope.mediaType body))

/-- What an attempt hands on: where the body went and what came of it. -/
def handed : Attempt → Except Failure (Json × Except Failure Response)
  | .unheard failure | .noNonce _ failure | .unbuilt _ _ failure | .unanswered _ _ _ _ failure =>
    .error failure
  | .answered _ _ url _ answer => .ok (url, answer.check)

end Attempt

variable {provider : Provider} {build : Builder} {world after : World}

theorem outcome_newNonce (provider : Provider) (world : World) :
    Client.outcome provider.newNonce world =
      (world.nextReply.bind Response.nonce, world.sent (.head provider.endpoints.newNonce)) := by
  unfold newNonce
  rw [Client.outcome_bind, Client.outcome_send]
  cases world.nextReply with
  | error failure => rfl
  | ok reply =>
      change Client.outcome (check reply >>= expectHeader "Replay-Nonce") _ = _
      rw [Client.outcome_bind, check, Client.outcome_ofExcept]
      cases checked : reply.check <;>
        simp [Response.nonce, Except.bind, bind, checked, expectHeader]

theorem outcome_attempt (provider : Provider) (build : Builder) (number total : Int)
    (world : World) :
    ∃ attempt after, Attempt.Made provider build world attempt after ∧
      Client.outcome (provider.attempt build number total) world = (attempt.handed, after) := by
  unfold Provider.attempt
  rw [Client.outcome_bind, outcome_newNonce]
  cases heard : world.nextReply with
  | error failure => exact ⟨.unheard failure, _, .unheard heard, rfl⟩
  | ok reply =>
      cases found : reply.nonce with
      | error failure =>
          refine ⟨.noNonce reply failure, _, .noNonce heard found, ?_⟩
          simp only [Except.bind, found]
          rfl
      | ok nonce =>
          simp only [Except.bind, found, Client.outcome_bind]
          cases built : Client.outcome (build nonce)
              (world.sent (.head provider.endpoints.newNonce)) with
          | mk made between =>
              cases made with
              | error failure => exact ⟨.unbuilt reply nonce failure, _, .unbuilt heard found built, rfl⟩
              | ok made =>
                  obtain ⟨url, body⟩ := made
                  simp only [Client.outcome_debug, Client.outcome_send, World.told_nextReply]
                  cases answered : between.nextReply with
                  | error failure =>
                      exact ⟨.unanswered reply nonce url body failure, _,
                        .unanswered heard found built answered, rfl⟩
                  | ok answer =>
                      exact ⟨.answered reply nonce url body answer, _,
                        .answered heard found built answered, rfl⟩

/-- Attempts one after the other, with a line in the log before each further one. -/
inductive Performed (provider : Provider) (build : Builder) : World → List Attempt → World → Prop
  | last {world attempt after} :
      Attempt.Made provider build world attempt after →
      Performed provider build world [attempt] after
  | more {world attempt between message rest after} :
      Attempt.Made provider build world attempt between →
      Performed provider build (between.told Logging.Level.info "acmelib.request" message) rest
        after →
      Performed provider build world (attempt :: rest) after

/-- Whether each attempt but the last is followed by another one because it was rejected, and the
last one by none because it was not or because no further one is allowed. -/
def StopsDuly (total : Int) (attempts : List Attempt) : Prop :=
  ∀ i (inside : i < attempts.length),
    i + 1 < attempts.length ↔ (i : Int) + 1 < total ∧ attempts[i].IsRejected

theorem StopsDuly.cons {total : Int} {attempt : Attempt} {attempts : List Attempt}
    (duly : StopsDuly total attempts) (some : attempts ≠ []) (rejected : attempt.IsRejected)
    (positive : 1 ≤ total) : StopsDuly (total + 1) (attempt :: attempts) := by
  intro i inside
  have some := List.length_pos_iff.mpr some
  cases i with
  | zero =>
      simp only [List.length_cons, List.getElem_cons_zero, rejected, and_true]
      omega
  | succ i =>
      have next := duly i (by simpa using inside)
      simp only [List.length_cons, List.getElem_cons_succ, Nat.add_lt_add_iff_right, next,
        and_congr_left_iff]
      omega

/-- What comes of a request that is attempted `total` times at most. -/
def Attempted (provider : Provider) (build : Builder) (total : Int) (world : World)
    (ran : Except Failure Response × World) : Prop :=
  ∃ attempts last after, Performed provider build world attempts after ∧
    attempts.getLast? = some last ∧ StopsDuly total attempts ∧ ran = (last.result, after)

variable {attempt : Attempt} {between : World} {total : Int} {message : String}
  {ran : Except Failure Response × World}

theorem Attempted.unrejected (made : Attempt.Made provider build world attempt after)
    (unrejected : ¬ attempt.IsRejected) :
    Attempted provider build total world (attempt.result, after) := by
  refine ⟨[attempt], attempt, after, .last made, rfl, ?_, rfl⟩
  intro i inside
  obtain rfl : i = 0 := by simpa using inside
  simp [unrejected]

theorem Attempted.final (made : Attempt.Made provider build world attempt after) :
    Attempted provider build 1 world (attempt.result, after) := by
  refine ⟨[attempt], attempt, after, .last made, rfl, ?_, rfl⟩
  intro i inside
  simp only [List.length_singleton] at inside ⊢
  omega

theorem Attempted.rejected (made : Attempt.Made provider build world attempt between)
    (rejected : attempt.IsRejected) (positive : 1 ≤ total)
    (later : Attempted provider build total
      (between.told Logging.Level.info "acmelib.request" message) ran) :
    Attempted provider build (total + 1) world ran := by
  obtain ⟨attempts, last, after, performed, isLast, duly, done⟩ := later
  refine ⟨attempt :: attempts, last, after, .more made performed, ?_, ?_, done⟩
  · rw [List.getLast?_cons, isLast, Option.getD_some]
  · exact duly.cons (List.ne_nil_of_mem (List.mem_of_getLast? isLast)) rejected positive

theorem Attempt.isRejected_answered {reply answer : Response} {nonce : String} {url : Json}
    {body : Bytes} : (answered reply nonce url body answer).IsRejected ↔ answer.RejectsNonce := by
  simp [IsRejected, answer?]

theorem attemptFrom_attempted (provider : Provider) (build : Builder) (total : Int) (more : Nat)
    (world : World) :
    Attempted provider build (more + 1) world
      (Client.outcome (provider.attemptFrom build total more) world) := by
  induction more generalizing world with
  | zero =>
      obtain ⟨attempt, after, made, ran⟩ := outcome_attempt provider build total total world
      have done : Client.outcome (provider.attemptFrom build total 0) world =
          (attempt.result, after) := by
        rw [attemptFrom, Client.outcome_bind, ran]
        cases attempt <;> simp [Attempt.handed, Attempt.result]
      rw [done]
      exact .final made
  | succ more ih =>
      obtain ⟨attempt, between, made, ran⟩ :=
        outcome_attempt provider build (total - (more + 1 : Nat)) total world
      rw [attemptFrom, Client.outcome_bind, ran]
      cases attempt with
      | answered reply nonce url body answer =>
          cases checked : answer.check with
          | ok response =>
              have accepted := (Response.check_eq_ok_iff.mp checked).2
              have kept : ¬ answer.RejectsNonce := fun rejects => by
                rw [rejects.1] at accepted
                contradiction
              have last : Attempted provider build ((more + 1 : Nat) + 1) world _ :=
                .unrejected made (mt Attempt.isRejected_answered.mp kept)
              simpa only [Attempt.handed, Attempt.result, checked, Client.outcome_pure] using last
          | error failure =>
              have goesOn := isNonceRejection_iff checked
              by_cases rejects : answer.RejectsNonce
              · simp only [Attempt.handed, checked, goesOn.mpr rejects, if_true, Client.outcome_bind,
                  Client.outcome_info]
                exact .rejected made (Attempt.isRejected_answered.mpr rejects) (by omega) (ih _)
              · have last : Attempted provider build ((more + 1 : Nat) + 1) world _ :=
                  .unrejected made (mt Attempt.isRejected_answered.mp rejects)
                simpa only [Attempt.handed, Attempt.result, checked, mt goesOn.mp rejects,
                  Bool.false_eq_true, if_false, Client.outcome_throw] using last
      | _ => exact .unrejected made (by simp [Attempt.IsRejected, Attempt.answer?])

theorem Attempt.Made.exchanged {attempt : Attempt}
    (made : Attempt.Made provider build world attempt after) (quiet : build.IsQuiet) :
    Exchanged world after (attempt.exchanges provider.endpoints.newNonce) := by
  have asked := Exchanged.sent world (.head provider.endpoints.newNonce)
  have building {nonce made between}
      (built : Client.outcome (build nonce) (world.sent (.head provider.endpoints.newNonce)) =
        (made, between)) :
      Exchanged world between [(.head provider.endpoints.newNonce, world.nextReply)] := by
    have silent := quiet nonce (world.sent (.head provider.endpoints.newNonce))
    rw [built] at silent
    exact asked.trans silent
  have posting {between : World} {url body message reply}
      (built : Exchanged world between [(.head provider.endpoints.newNonce, world.nextReply)])
      (answered : between.nextReply = reply) :
      Exchanged world ((between.told Logging.Level.debug "acmelib.request" message).sent
          (.post url Envelope.mediaType body))
        [(.head provider.endpoints.newNonce, world.nextReply),
          (.post url Envelope.mediaType body, reply)] := by
    subst reply
    exact (built.trans (.told between _ _ message)).trans (.sent _ _)
  cases made with
  | unheard heard => rwa [heard] at asked
  | noNonce heard found => rwa [heard] at asked
  | unbuilt heard found built =>
      have exchanged := building built
      rwa [heard] at exchanged
  | unanswered heard found built answered =>
      rw [Attempt.exchanges, ← heard]
      exact posting (building built) answered
  | answered heard found built answered =>
      rw [Attempt.exchanges, ← heard]
      exact posting (building built) answered

theorem Performed.exchanged {attempts : List Attempt}
    (performed : Performed provider build world attempts after) (quiet : build.IsQuiet) :
    Exchanged world after
      (attempts.flatMap (Attempt.exchanges provider.endpoints.newNonce)) := by
  induction performed with
  | last made => simpa using made.exchanged quiet
  | more made performed ih =>
      simpa using ((made.exchanged quiet).trans (.told _ _ _ _)).trans ih

/-- Requests keep whatever sending, writing to the log and building keep. -/
theorem Performed.kept {kept : World → World → Prop} {attempts : List Attempt}
    (performed : Performed provider build world attempts after) (lasts : Client.Lasts kept)
    (sends : ∀ world call, kept world (world.sent call))
    (builds : ∀ nonce, Client.Keeps kept (build nonce)) : kept world after := by
  have attempted {world attempt after} (made : Attempt.Made provider build world attempt after) :
      kept world after := by
    have building {world nonce result between}
        (built : Client.outcome (build nonce) (world.sent (.head provider.endpoints.newNonce)) =
          (result, between)) : kept world between := by
      have kept := builds nonce (world.sent (.head provider.endpoints.newNonce))
      rw [built] at kept
      exact lasts.trans (sends _ _) kept
    cases made with
    | unheard | noNonce => exact sends _ _
    | unbuilt heard found built => exact building built
    | unanswered heard found built | answered heard found built =>
        exact lasts.trans (lasts.trans (building built) (lasts.told _ _ _ _)) (sends _ _)
  induction performed with
  | last made => exact attempted made
  | more made performed ih => exact lasts.trans (attempted made) (lasts.trans (lasts.told _ _ _ _) ih)

theorem StopsDuly.length_le {total : Int} {attempts : List Attempt}
    (duly : StopsDuly total attempts) (positive : 1 ≤ total) : (attempts.length : Int) ≤ total := by
  by_cases several : 1 < attempts.length
  · have before := (duly (attempts.length - 2) (by omega)).mp (by omega)
    omega
  · omega

theorem request_few {limit : Option Int} (few : limit.getD provider.attempts < 1) :
    Client.outcome (provider.request build limit) world =
      (.error (.defect (.tooFewAttempts (limit.getD provider.attempts))), world) := by
  simp only [Provider.request]
  rw [if_pos few]
  rfl

theorem request_attempted (provider : Provider) (build : Builder) (limit : Option Int)
    (positive : 1 ≤ limit.getD provider.attempts) (world : World) :
    Attempted provider build (limit.getD provider.attempts) world
      (Client.outcome (provider.request build limit) world) := by
  have attempted := attemptFrom_attempted provider build (limit.getD provider.attempts)
    ((limit.getD provider.attempts).toNat - 1) world
  have enough : (((limit.getD provider.attempts).toNat - 1 : Nat) : Int) + 1 =
      limit.getD provider.attempts := by omega
  rw [enough] at attempted
  simp only [Provider.request]
  rw [if_neg (by omega)]
  exact attempted

theorem keeps_request {kept : World → World → Prop} {limit : Option Int}
    (lasts : Client.Lasts kept) (sends : ∀ world call, kept world (world.sent call))
    (builds : ∀ nonce, Client.Keeps kept (build nonce)) :
    Client.Keeps kept (provider.request build limit) := by
  intro world
  by_cases few : limit.getD provider.attempts < 1
  · rw [request_few few]
    exact lasts.refl world
  · obtain ⟨attempts, last, after, performed, -, -, done⟩ :=
      request_attempted provider build limit (by omega) world
    rw [done]
    exact performed.kept lasts sends builds

/-- What a signed request does, for every builder and every script of replies. -/
theorem request_attempts (provider : Provider) (build : Builder) (limit : Option Int)
    (world : World) :
    let total := limit.getD provider.attempts
    let ran := Client.outcome (provider.request build limit) world
    (total < 1 → ran = (.error (.defect (.tooFewAttempts total)), world)) ∧
    (1 ≤ total → ∃ attempts last,
      Performed provider build world attempts ran.2 ∧
      attempts.getLast? = some last ∧ (attempts.length : Int) ≤ total ∧
      StopsDuly total attempts ∧
      ran.1 = last.result ∧
      (∀ response, ran.1 = .ok response ↔ last.answer? = some response ∧ response.isOk) ∧
      (build.IsQuiet → Exchanged world ran.2
        (attempts.flatMap (Attempt.exchanges provider.endpoints.newNonce)))) := by
  intro total ran
  constructor
  · exact request_few
  · intro positive
    obtain ⟨attempts, last, after, performed, isLast, duly, done⟩ :=
      request_attempted provider build limit positive world
    have whole : ran = (last.result, after) := done
    rw [whole]
    exact ⟨attempts, last, performed, isLast, duly.length_le positive, duly, rfl,
      fun _ => Attempt.result_eq_ok_iff, performed.exchanged⟩

end Provider

end AcmeClient
