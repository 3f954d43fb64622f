import AcmeClient.Proofs.Client.Course

namespace AcmeClient

variable {α : Type}

def Call.isHead : Call → Bool
  | .head _ => true
  | _ => false

/-- A reply with a nonce, and another one that rejects the nonce. -/
structure Rejection where
  given : Response
  nonce : String
  isNonce : given.nonce = .ok nonce
  answer : Response
  rejects : answer.RejectsNonce

def Rejection.replies (rejection : Rejection) : List Reply :=
  [.ok rejection.given, .ok rejection.answer]

/-- The same world, where nonces are rejected first. -/
def World.preceded (world : World) (extra : List Rejection) : World :=
  { world with replies := extra.flatMap Rejection.replies ++ world.replies }

/-- A world that is like another one, but where nonces are rejected first. -/
structure World.Ahead (extra : List Rejection) (world other : World) : Prop where
  replies : other.replies = extra.flatMap Rejection.replies ++ world.replies
  silence : other.silence = world.silence
  calls : other.calls = world.calls
  storage : other.storage = world.storage
  keySource : other.keySource = world.keySource
  generated : other.generated = world.generated

theorem World.ahead_preceded (world : World) (extra : List Rejection) :
    world.Ahead extra (world.preceded extra) := ⟨rfl, rfl, rfl, rfl, rfl, rfl⟩

theorem World.Ahead.resembles {extra : List Rejection} {world other : World}
    (ahead : world.Ahead extra other) : other.Resembles (world.preceded extra) :=
  ⟨ahead.calls, ahead.replies, ahead.silence⟩

namespace Course

variable {course : Course α} {world other : World} {newNonce : Json}
  {built : String → Except Failure (Json × Bytes)} {finish : Response → Except Failure α}

/-- What a course sends in a world. -/
def sends : Course α → World → List Call
  | ended _, _ => []
  | asks call next, world => call :: (next world.nextReply).sends (world.sent call)

theorem calls_play_eq (course : Course α) (world : World) :
    (course.play world).2.calls = world.calls ++ course.sends world := by
  induction course generalizing world with
  | ended result => exact (List.append_nil _).symm
  | asks call next ih =>
      rw [play, ih, sends, World.sent, List.append_assoc]
      rfl

theorem play_congr (course : Course α) (replies : world.replies = other.replies)
    (silence : world.silence = other.silence) :
    (course.play world).1 = (course.play other).1 ∧ course.sends world = course.sends other := by
  induction course generalizing world other with
  | ended result => exact ⟨rfl, rfl⟩
  | asks call next ih =>
      have same : world.nextReply = other.nextReply := by
        simp only [World.nextReply, World.replyAfter, replies, silence]
      have later : (world.sent call).replies = (other.sent call).replies := congrArg List.tail replies
      have still : (world.sent call).silence = (other.sent call).silence := silence
      obtain ⟨results, calls⟩ := ih other.nextReply later still
      simp only [play, sends, same, results, calls, and_self]

/-- One attempt, and what follows where its nonce is rejected. -/
def once (newNonce : Json) (built : String → Except Failure (Json × Bytes))
    (finish : Response → Except Failure α) (again : Option (Course α)) : Course α :=
  asks (.head newNonce) (posting built (concluding finish again))

theorem attempts_zero : attempts newNonce built finish 0 = once newNonce built finish none := rfl

theorem attempts_succ (more : Nat) : attempts newNonce built finish (more + 1) =
    once newNonce built finish (some (attempts newNonce built finish more)) := rfl

/-- A post of what is built for some nonce. -/
def IsPost (built : String → Except Failure (Json × Bytes)) (call : Call) : Prop :=
  ∃ nonce made, built nonce = .ok made ∧ call = .post made.1 Envelope.mediaType made.2

theorem IsPost.isHead {call : Call} (isPost : IsPost built call) : ¬ call.isHead := by
  obtain ⟨_, _, -, rfl⟩ := isPost
  simp [Call.isHead]

/-- A request of some attempt. -/
def IsAttempt (newNonce : Json) (built : String → Except Failure (Json × Bytes)) (call : Call) : Prop :=
  call = .head newNonce ∨ IsPost built call

/-- The attempt is the last one, whether another one may follow or not. -/
def Final (newNonce : Json) (built : String → Except Failure (Json × Bytes))
    (finish : Response → Except Failure α) (world : World) : Prop :=
  ∃ played calls, (∀ call ∈ calls, IsAttempt newNonce built call) ∧
    ∀ again, (once newNonce built finish again).play world = played ∧
      (once newNonce built finish again).sends world = calls

/-- The nonce of the attempt is rejected, so that another one follows if it may. -/
def Rejected (newNonce : Json) (built : String → Except Failure (Json × Bytes))
    (finish : Response → Except Failure α) (world : World) : Prop :=
  ∃ post left, IsPost built post ∧
    (once newNonce built finish none).sends world = [.head newNonce, post] ∧
    ∀ next, (once newNonce built finish (some next)).play world = next.play left ∧
      (once newNonce built finish (some next)).sends world = .head newNonce :: post :: next.sends left

theorem concluding_rejected {answer : Response} (rejects : answer.RejectsNonce) (next : Course α) :
    concluding finish (some next) (.ok answer) = next := by
  cases checked : answer.check with
  | ok response =>
      obtain ⟨rfl, accepted⟩ := Response.check_eq_ok_iff.mp checked
      rw [rejects.1] at accepted
      contradiction
  | error failure =>
      simp only [concluding, bind, checked, (Provider.isNonceRejection_iff checked).mpr rejects, if_true]

variable (newNonce finish) in
/-- What becomes of an attempt whose body is posted. -/
theorem once_posted (again : Option (Course α)) {answer : Response} {nonce : String}
    {made : Json × Bytes} (heard : world.nextReply = .ok answer) (found : answer.nonce = .ok nonce)
    (builds : built nonce = .ok made) :
    let post := Call.post made.1 Envelope.mediaType made.2
    let asked := world.sent (.head newNonce)
    (once newNonce built finish again).play world =
        (concluding finish again asked.nextReply).play (asked.sent post) ∧
      (once newNonce built finish again).sends world =
        .head newNonce :: post :: (concluding finish again asked.nextReply).sends (asked.sent post) := by
  have goesOn : posting built (concluding finish again) (.ok answer) =
      .asks (.post made.1 Envelope.mediaType made.2) (concluding finish again) := posting_ok found builds
  simp only [once, play, sends, heard, goesOn, and_self]

theorem final_or_rejected_of_posted {answer : Response} {nonce : String} {made : Json × Bytes}
    (heard : world.nextReply = .ok answer) (found : answer.nonce = .ok nonce)
    (builds : built nonce = .ok made) :
    Final newNonce built finish world ∨ Rejected newNonce built finish world := by
  let asked := world.sent (.head newNonce)
  let post := Call.post made.1 Envelope.mediaType made.2
  have isPost : IsPost built post := ⟨nonce, made, builds, rfl⟩
  have posted := fun again =>
    once_posted newNonce finish again heard found builds
  have concludes (result : Except Failure α)
      (done : ∀ again, concluding finish again asked.nextReply = ended result) :
      Final newNonce built finish world :=
    ⟨_, [.head newNonce, post], by simp [IsAttempt, isPost], fun again => by
      rw [(posted again).1, (posted again).2, done]
      exact ⟨rfl, rfl⟩⟩
  cases answered : asked.nextReply with
  | error failure => exact .inl (concludes (.error failure) fun again => by rw [answered]; rfl)
  | ok reply =>
      cases checked : reply.check with
      | ok response =>
          exact .inl (concludes (finish response) fun again => by
            simp only [answered, concluding, bind, checked])
      | error failure =>
          by_cases rejection : Provider.isNonceRejection failure
          · have rejects := (Provider.isNonceRejection_iff checked).mp rejection
            refine .inr ⟨post, asked.sent post, isPost, ?_, fun next => ?_⟩
            · rw [(posted none).2, answered]
              simp only [concluding, bind, checked, sends, post]
            · rw [(posted (some next)).1, (posted (some next)).2, answered, concluding_rejected rejects]
              exact ⟨rfl, rfl⟩
          · refine .inl (concludes (.error failure) fun again => ?_)
            simp only [answered, concluding, bind, checked, rejection]
            cases again <;> rfl

theorem final_or_rejected (newNonce : Json) (built : String → Except Failure (Json × Bytes))
    (finish : Response → Except Failure α) (world : World) :
    Final newNonce built finish world ∨ Rejected newNonce built finish world := by
  -- an attempt that ends with the request for a nonce
  have unposted (failure : Failure)
      (fails : ∀ next : Reply → Course α,
        posting built next world.nextReply = ended (.error failure)) :
      Final newNonce built finish world :=
    ⟨(.error failure, world.sent (.head newNonce)), [.head newNonce], by simp [IsAttempt], fun again => by
      simp only [once, play, sends, fails, and_self]⟩
  cases heard : world.nextReply with
  | error failure => exact .inl (unposted failure fun next => by rw [heard]; rfl)
  | ok answer =>
      cases found : answer.nonce with
      | error failure =>
          exact .inl (unposted failure fun next => by
            simp only [heard, posting, Except.bind, found, bind])
      | ok nonce =>
          cases builds : built nonce with
          | error failure =>
              exact .inl (unposted failure fun next => by
                simp only [heard, posting, Except.bind, found, builds, bind])
          | ok made => exact final_or_rejected_of_posted heard found builds

variable (newNonce built finish) in
theorem sends_attempts (more : Nat) (world : World) : ∃ rest,
    (attempts newNonce built finish more).sends world = .head newNonce :: rest := by
  cases more <;> exact ⟨_, rfl⟩

/-- Attempts that are not made may as well not be allowed. -/
theorem attempts_of_few {fewer more : Nat} (le : fewer ≤ more)
    (few : ((attempts newNonce built finish more).sends world).countP Call.isHead ≤ fewer + 1) :
    (attempts newNonce built finish fewer).play world =
        (attempts newNonce built finish more).play world ∧
      (attempts newNonce built finish fewer).sends world =
        (attempts newNonce built finish more).sends world := by
  induction fewer generalizing more world with
  | zero =>
      cases more with
      | zero => exact ⟨rfl, rfl⟩
      | succ more =>
          rw [attempts_succ] at few ⊢
          obtain ⟨played, calls, -, final⟩ | ⟨post, left, isPost, -, goesOn⟩ :=
            final_or_rejected newNonce built finish world
          · simp only [attempts_zero, final, and_self]
          · -- the next attempt would ask for a second nonce
            obtain ⟨rest, asks⟩ := sends_attempts newNonce built finish more left
            rw [(goesOn _).2, asks, List.countP_cons_of_pos rfl,
              List.countP_cons_of_neg isPost.isHead, List.countP_cons_of_pos rfl] at few
            omega
  | succ fewer ih =>
      cases more with
      | zero => omega
      | succ more =>
          rw [attempts_succ] at few
          rw [attempts_succ, attempts_succ]
          obtain ⟨played, calls, -, final⟩ | ⟨post, left, isPost, -, goesOn⟩ :=
            final_or_rejected newNonce built finish world
          · simp only [final, and_self]
          · rw [(goesOn _).2, List.countP_cons_of_pos rfl,
              List.countP_cons_of_neg isPost.isHead] at few
            have fewLeft : ((attempts newNonce built finish more).sends left).countP Call.isHead ≤
                fewer + 1 := by omega
            obtain ⟨same, calls⟩ := ih (Nat.le_of_succ_le_succ le) fewLeft
            rw [(goesOn _).1, (goesOn _).2, (goesOn _).1, (goesOn _).2, same, calls]
            exact ⟨rfl, rfl⟩

variable (newNonce finish) in
/-- A rejection in front takes one attempt and changes nothing else. -/
theorem attempts_rejected (rejection : Rejection) {made : Json × Bytes} (more : Nat)
    (builds : built rejection.nonce = .ok made)
    (heard : world.replies = rejection.replies ++ other.replies)
    (silence : world.silence = other.silence) :
    ((attempts newNonce built finish (more + 1)).play world).1 =
        ((attempts newNonce built finish more).play other).1 ∧
      (attempts newNonce built finish (more + 1)).sends world =
        .head newNonce :: .post made.1 Envelope.mediaType made.2 ::
          (attempts newNonce built finish more).sends other := by
  let asked := world.sent (.head newNonce)
  let posted := asked.sent (.post made.1 Envelope.mediaType made.2)
  have first : world.nextReply = .ok rejection.given := by
    simp [World.nextReply, World.replyAfter, heard, Rejection.replies]
  have second : asked.nextReply = .ok rejection.answer := by
    simp [World.nextReply, World.replyAfter, asked, World.sent, heard, Rejection.replies]
  have left : posted.replies = other.replies := by
    simp [posted, asked, World.sent, heard, Rejection.replies]
  obtain ⟨played, calls⟩ := once_posted newNonce finish
    (some (attempts newNonce built finish more)) first rejection.isNonce builds
  have goesOn : concluding finish (some (attempts newNonce built finish more)) asked.nextReply =
      attempts newNonce built finish more := by
    rw [second]
    exact concluding_rejected rejection.rejects _
  obtain ⟨results, sent⟩ := (attempts newNonce built finish more).play_congr left silence
  rw [attempts_succ, played, calls, goesOn]
  exact ⟨results, by rw [sent]⟩

theorem isAttempt_of_mem {more : Nat} {call : Call}
    (member : call ∈ (attempts newNonce built finish more).sends world) :
    IsAttempt newNonce built call := by
  induction more generalizing world with
  | zero =>
      obtain ⟨played, calls, attempted, final⟩ | ⟨post, left, isPost, sent, -⟩ :=
        final_or_rejected newNonce built finish world
      · rw [attempts_zero, (final none).2] at member
        exact attempted call member
      · rw [attempts_zero, sent, List.mem_cons, List.mem_singleton] at member
        obtain rfl | rfl := member
        · exact .inl rfl
        · exact .inr isPost
  | succ more ih =>
      rw [attempts_succ] at member
      obtain ⟨played, calls, attempted, final⟩ | ⟨post, left, isPost, -, goesOn⟩ :=
        final_or_rejected newNonce built finish world
      · rw [(final _).2] at member
        exact attempted call member
      · rw [(goesOn _).2, List.mem_cons, List.mem_cons] at member
        obtain rfl | rfl | member := member
        · exact .inl rfl
        · exact .inr isPost
        · exact ih member

variable (world newNonce finish) in
theorem attempts_preceded (extra : List Rejection) (more : Nat)
    (builds : ∀ rejection ∈ extra, ∃ made, built rejection.nonce = .ok made) :
    ((attempts newNonce built finish (more + extra.length)).play (world.preceded extra)).1 =
        ((attempts newNonce built finish more).play world).1 ∧
      ∃ front, (attempts newNonce built finish (more + extra.length)).sends (world.preceded extra) =
          front ++ (attempts newNonce built finish more).sends world ∧
        ∀ call ∈ front, IsAttempt newNonce built call := by
  induction extra with
  | nil => exact ⟨rfl, [], rfl, by simp⟩
  | cons rejection rest ih =>
      rw [List.forall_mem_cons] at builds
      obtain ⟨⟨made, built⟩, others⟩ := builds
      obtain ⟨same, front, sent, attempted⟩ := ih others
      have heard : (world.preceded (rejection :: rest)).replies =
          rejection.replies ++ (world.preceded rest).replies := by simp [World.preceded]
      obtain ⟨results, calls⟩ :=
        attempts_rejected newNonce finish rejection (more + rest.length) built heard rfl
      rw [List.length_cons, ← Nat.add_assoc, results, calls, same, sent]
      refine ⟨rfl, _ :: _ :: front, rfl, ?_⟩
      simp only [List.forall_mem_cons]
      exact ⟨.inl rfl, .inr ⟨_, _, built, rfl⟩, attempted⟩

/-- A course that has ended, or makes the attempts that are allowed. -/
inductive Tries (newNonce : Json) (built : String → Except Failure (Json × Bytes)) (allowed : Int) :
    Course α → Prop
  | done (result : Except Failure α) : Tries newNonce built allowed (.ended result)
  | trying (finish : Response → Except Failure α) : 1 ≤ allowed →
      Tries newNonce built allowed (.attempts newNonce built finish (allowed.toNat - 1))

theorem Tries.preceded {allowed : Int} {extra : List Rejection} (tries : Tries newNonce built allowed course)
    (builds : ∀ rejection ∈ extra, ∃ made, built rejection.nonce = .ok made)
    (enough : ((course.sends world).countP Call.isHead : Int) + extra.length ≤ allowed) :
    (course.play (world.preceded extra)).1 = (course.play world).1 ∧
      ∃ front, course.sends (world.preceded extra) = front ++ course.sends world ∧
        ∀ call ∈ front ++ course.sends world, IsAttempt newNonce built call := by
  cases tries with
  | done result => exact ⟨rfl, [], rfl, by simp [sends]⟩
  | trying finish positive =>
      obtain ⟨rest, asks⟩ := sends_attempts newNonce built finish
        (allowed.toNat - 1) world
      have some : 0 < ((attempts newNonce built finish (allowed.toNat - 1)).sends world).countP
          Call.isHead := by
        rw [asks, List.countP_cons_of_pos rfl]
        omega
      have total : allowed.toNat - 1 = (allowed.toNat - 1 - extra.length) + extra.length := by omega
      have fits : allowed.toNat - 1 - extra.length ≤ allowed.toNat - 1 := by omega
      have few : ((attempts newNonce built finish (allowed.toNat - 1)).sends world).countP Call.isHead ≤
          allowed.toNat - 1 - extra.length + 1 := by omega
      obtain ⟨fewer, sent⟩ := attempts_of_few fits few
      obtain ⟨results, front, calls, attempted⟩ :=
        attempts_preceded world newNonce finish extra (allowed.toNat - 1 - extra.length) builds
      rw [← total, fewer] at results
      rw [← total, sent] at calls
      refine ⟨results, front, calls, fun call member => ?_⟩
      obtain member | member := List.mem_append.mp member
      · exact attempted call member
      · exact isAttempt_of_mem member

end Course

end AcmeClient
