import AcmeClient.Proofs.Client.CertificateLookup
import AcmeClient.Proofs.CommandLine.Registration
import AcmeClient.Proofs.Resource.OrderDocuments

namespace AcmeClient

open Json

namespace Json

/-- A document may end its line. -/
theorem read_write_line {layout : Layout} (separates : layout.Separates) {value : Json}
    (readable : IsReadable value) :
    Json.read (Text.Utf8.encode (write layout value ++ ['\n'])) = .ok value := by
  have lineEnd : Blank ['\n'] := List.all_eq_true.mp rfl
  have spells := readable.isSpelled separates 0 ['\n']
  have document : Document .accepted .ample ([] ++ (write layout value ++ ['\n'])) value :=
    .value blank_nil spells lineEnd
  exact read_eq_ok_iff.mpr ⟨_, document.decodeDetected, document⟩

end Json

namespace Resource

variable {document : Json} {items : List Json}

theorem isReadable_elements (readable : IsReadable document) (listed : elements document = .ok items) :
    ∀ item ∈ items, IsReadable item := by
  unfold elements at listed
  split at listed
  · cases listed
    exact List.forall_mem_nil _
  · cases readable with
    | arr others readable =>
        cases listed
        exact readable
    | obj members =>
        cases listed
        exact List.forall_mem_map.mpr fun member _ => .str member.1
    | str s =>
        cases listed
        exact List.forall_mem_map.mpr fun c _ => .str _
    | null | bool | int | float => contradiction

theorem Identifier.isReadable_toJson {identifier : Identifier} (made : ofJson document = .ok identifier) :
    IsReadable identifier.toJson := by
  obtain ⟨_, value, -, -, -, text⟩ := ofJson_eq_ok_iff.mp made
  refine .obj _ (by simp) ?_
  simp only [List.forall_mem_cons, text]
  exact ⟨.str _, .str _, List.forall_mem_nil _⟩

/-- What is shown of an order can be read if its document could. -/
theorem Order.readable_of_ofJson {order : Order} (readable : IsReadable document)
    (made : ofJson document = .ok order) :
    (∀ identifier ∈ order.identifiers, IsReadable identifier.toJson) ∧
      (∀ url ∈ order.authorizations, IsReadable url) ∧ IsReadable order.finalize := by
  obtain ⟨members, rfl, -⟩ := (decodes.treats document).makes _ made
  obtain ⟨status, items, identifiers, authorizations, -, -, identified, listed, rfl⟩ :=
    ofJson_obj_eq_ok_iff.mp made
  have shown : List.Forall₂ (fun identifier item => IsReadable identifier.toJson ∧
      Identifier.ofJson item = .ok identifier) identifiers items :=
    (mapM_eq_ok_iff.mp identified).flip.imp fun _ _ known => ⟨Identifier.isReadable_toJson known, known⟩
  exact ⟨((List.forall₂_and_left _ _).mp shown).1,
    isReadable_elements (isReadable_member readable _) listed, isReadable_member readable _⟩

end Resource

variable {world known after : World} {account : Account} {primary others : Json} {order : Order}
  {pem : Bytes} {s : Storage}

theorem Account.of_order (done : Client.outcome (account.order primary others) world = (.ok order, after)) :
    ∃ document, IsReadable document ∧ Resource.Order.ofJson document = .ok order.resource := by
  rw [order_eq] at done
  obtain ⟨names, _, -, done⟩ := Client.outcome_bind_eq_ok done
  obtain ⟨response, _, -, done⟩ := Client.outcome_bind_eq_ok done
  have made := congrArg Prod.fst done
  rw [outcome_taken] at made
  obtain ⟨url, document, resource, -, told, decoded, rfl⟩ := Response.made_eq_ok_iff.mp made
  exact ⟨document, isReadable_of_read (Response.json_eq_ok_iff.mp told), decoded⟩

/-- A key that was read from a file does not refuse to sign. -/
theorem AccountKey.eq_ofSecret_of_ofPem {key : AccountKey} (usable : ofPem pem = .ok key) :
    key = .ofSecret key.secret := by
  unfold ofPem at usable
  split at usable <;> cases usable
  rfl

/-- A text is the PEM of the key that is stored for an account. Where the key was stored by the client, it
is what is stored, byte for byte. -/
structure Account.IsKeyText (account : Account) (s : Storage) (text : String) : Prop where
  written : Text.bytesOf text = account.key.toPem
  stored : ∃ pem, s.content? (Provider.accountEntry account.realm) = some pem ∧
    AccountKey.ofPem pem = .ok account.key ∧ AccountKey.ofPem (Text.bytesOf text) = .ok account.key ∧
    ∀ key : AccountKey, pem = key.toPem → Text.bytesOf text = pem

theorem Account.bytesOf_privateKeyText (account : Account) :
    Text.bytesOf (String.ofList account.privateKeyText) = account.key.toPem := by
  have ascii : ∀ b ∈ account.key.toPem, b.toNat < 0x80 := KeyFile.ascii_write account.key.secret
  have letter {b : UInt8} (member : b ∈ account.key.toPem) : (Char.ofNat b.toNat).toNat = b.toNat := by
    have small := ascii b member
    exact Text.Utf8.toNat_ofNat_of_valid (.inl (by omega))
  have plain : ∀ c ∈ account.privateKeyText, c.toNat < 0x80 := by
    refine List.forall_mem_map.mpr fun b member => ?_
    rw [letter member]
    exact ascii b member
  rw [Text.bytesOf, String.toList_ofList, Text.Utf8.encode_of_ascii plain, privateKeyText, List.map_map]
  conv_rhs => rw [← List.map_id account.key.toPem]
  refine List.map_congr_left fun b member => ?_
  rw [Function.comp_apply, letter member, UInt8.ofNat_toNat, id]

theorem Account.isKeyText (stored : s.content? (Provider.accountEntry account.realm) = some pem)
    (usable : AccountKey.ofPem pem = .ok account.key) :
    account.IsKeyText s (String.ofList account.privateKeyText) := by
  have written := account.bytesOf_privateKeyText
  refine ⟨written, pem, stored, usable, ?_, fun key same => ?_⟩
  · rw [written, AccountKey.ofPem_toPem_secret, ← AccountKey.eq_ofSecret_of_ofPem usable]
  · rw [same, AccountKey.ofPem_toPem_secret, Except.ok.injEq] at usable
    rw [written, same, ← usable]
    rfl

namespace CommandLine

theorem read_orderJson (done : Client.outcome (account.order primary others) world = (.ok order, after)) :
    Json.read (Text.bytesOf (String.ofList (Json.write .indented (orderJson order)) ++ "\n")) =
      .ok (orderJson order) := by
  obtain ⟨document, told, made⟩ := Account.of_order done
  obtain ⟨identifiers, authorizations, finalize⟩ := Resource.Order.readable_of_ofJson told made
  have readable : IsReadable (orderJson order) := by
    refine .obj _ (by simp) ?_
    simp only [List.forall_mem_cons]
    refine ⟨.str _, ?_, .arr _ (List.forall_mem_map.mpr identifiers), .arr _ authorizations, finalize,
      List.forall_mem_nil _⟩
    cases order.resource.status <;> constructor
  have line := Json.read_write_line Layout.separates_indented readable
  rwa [Text.bytesOf, String.toList_append, String.toList_ofList]

variable {invocation : Invocation} {settings : Settings} {logger : Logging.Logger}
  {log message : String} {transcript : Transcript}

/-- A run gets to its command, with these settings. -/
structure Starts (world : World) (invocation : Invocation) (settings : Settings)
    (logger : Logging.Logger) : Prop extends Opens world invocation settings where
  logs : Logging.Logger.initial.configure settings.logging = .ok logger

/-- A run knows the account that its command is for. -/
inductive Knows (world : World) (invocation : Invocation) : (account : Account) → (known : World) → Prop
  | known {settings : Settings} {logger : Logging.Logger} {account : Account} {known : World} :
      Starts world invocation settings logger →
      Client.outcome (accountOf settings invocation.email) world = (.ok account, known) →
      Knows world invocation account known

/-- What a run tells of a failure that was foreseen, and the lines of the log before it. -/
inductive Tells (world : World) (invocation : Invocation) : (log message : String) → Prop
  | noFile : world.storage.files.hasFile (.ofString invocation.config) = .ok false →
      Tells world invocation ""
        s!"configuration file not found: {(Location.ofString invocation.config).toString}"
  | unread {fault : Fault} : world.storage.files.hasFile (.ofString invocation.config) = .ok true →
      Settings.load world.storage.files (.ofString invocation.config) world.loader =
        .error (.fault fault) →
      Tells world invocation "" fault.message
  | failed {settings : Settings} {logger : Logging.Logger} {fault : Fault} {after : World} :
      Starts world invocation settings logger →
      Client.outcome (perform settings invocation) world = (.error (.fault fault), after) →
      Tells world invocation (logLines logger (earlyLevel false) after.records) fault.message

/-- The report of a command that was carried out. -/
def concluded (logger : Logging.Logger) : Except Failure Answer × World → Report
  | (.ok answer, after) =>
    ⟨.status answer.status, answer.output, logLines logger (earlyLevel false) after.records, after⟩
  | (.error (.fault fault), after) =>
    ⟨.status 1, "", logLines logger (earlyLevel false) after.records ++ errorLine fault.message, after⟩
  | (.error failure, after) =>
    ⟨.failed failure, "", logLines logger (earlyLevel false) after.records, after⟩

theorem world_concluded (ran : Except Failure Answer × World) : (concluded logger ran).world = ran.2 := by
  obtain ⟨result, after⟩ := ran
  rcases result with (fault | defect) | answer <;> rfl

/-- The ways in which a run goes. -/
inductive Goes (world : World) (invocation : Invocation) : Report → Prop
  | told {message : String} : Tells world invocation "" message →
      Goes world invocation ⟨.status 1, "", errorLine message, world⟩
  | escaped (defect : Defect) : Goes world invocation ⟨.failed (.defect defect), "", "", world⟩
  | performed {settings : Settings} {logger : Logging.Logger} : Starts world invocation settings logger →
      Goes world invocation (concluded logger (Client.outcome (perform settings invocation) world))

theorem runInvocation_of_starts (quiet : invocation.debug = false)
    (starts : Starts world invocation settings logger) :
    runInvocation world invocation =
      concluded logger (Client.outcome (perform settings invocation) world) := by
  have early : earlyLines false (.ofString invocation.config) = "" := rfl
  simp only [runInvocation, starts.isFile, starts.loads, runWith, starts.logs, quiet, early,
    String.empty_append, Client.outcome]
  generalize (perform settings invocation).run.run world = ran
  obtain ⟨result, after⟩ := ran
  rcases result with (fault | defect) | answer <;> rfl

theorem runInvocation_goes (quiet : invocation.debug = false) (world : World) :
    Goes world invocation (runInvocation world invocation) := by
  cases found : world.storage.files.hasFile (.ofString invocation.config) with
  | error e =>
      simp only [runInvocation, found]
      exact .escaped _
  | ok isFile =>
      cases isFile with
      | false =>
          simp only [runInvocation, found]
          exact .told (.noFile found)
      | true =>
          cases loaded : Settings.load world.storage.files (.ofString invocation.config) world.loader with
          | error failure =>
              simp only [runInvocation, found, loaded]
              cases failure with
              | fault fault => exact .told (.unread found loaded)
              | defect defect => exact .escaped defect
          | ok settings =>
              cases configured : Logging.Logger.initial.configure settings.logging with
              | error defect =>
                  have early : earlyLines false (.ofString invocation.config) = "" := rfl
                  simp only [runInvocation, found, loaded, runWith, configured, quiet, early]
                  exact .escaped defect
              | ok logger =>
                  have starts : Starts world invocation settings logger := ⟨⟨found, loaded⟩, configured⟩
                  rw [runInvocation_of_starts quiet starts]
                  exact .performed starts

theorem runInvocation_of_tells (quiet : invocation.debug = false)
    (tells : Tells world invocation log message) :
    ∃ after, runInvocation world invocation = ⟨.status 1, "", log ++ errorLine message, after⟩ := by
  cases tells with
  | noFile found =>
      simp only [runInvocation, found, String.empty_append]
      exact ⟨_, rfl⟩
  | unread found loaded =>
      simp only [runInvocation, found, loaded, String.empty_append]
      exact ⟨_, rfl⟩
  | failed starts failed =>
      rw [runInvocation_of_starts quiet starts, failed]
      exact ⟨_, rfl⟩

theorem runInvocation_of_knows (quiet : invocation.debug = false)
    (knows : Knows world invocation account known) :
    ∃ logger, runInvocation world invocation =
      concluded logger (Client.outcome (carryOut account invocation.command) known) := by
  obtain @⟨settings, logger, _, _, starts, made⟩ := knows
  rw [runInvocation_of_starts quiet starts, perform_eq, Client.outcome_bind_ok made]
  exact ⟨logger, rfl⟩

/-- What the end of a run goes with. -/
inductive Outcome (world : World) (invocation : Invocation) (report : Report) : Prop
  | told {log message : String} : report.ending = .status 1 → Tells world invocation log message →
      Outcome world invocation report
  | escaped {defect : Defect} : report.ending = .failed (.defect defect) → report.output = "" →
      Outcome world invocation report
  | answered {account : Account} {known : World} {code : Nat} :
      report.ending = .status code → code = 0 ∨ code = 2 → Knows world invocation account known →
      Client.outcome (carryOut account invocation.command) known =
        (.ok ⟨report.output, code⟩, report.world) → Outcome world invocation report

theorem Goes.outcome {report : Report} (goes : Goes world invocation report) :
    Outcome world invocation report := by
  cases goes with
  | told tells => exact .told rfl tells
  | escaped defect => exact .escaped rfl rfl
  | @performed settings logger starts =>
      cases ran : Client.outcome (perform settings invocation) world with
      | mk result after =>
          rcases result with (fault | defect) | answer
          · exact .told rfl (.failed starts ran)
          · exact .escaped rfl rfl
          · have status := perform_answers ran
            rw [perform_eq] at ran
            obtain ⟨account, known, made, done⟩ := Client.outcome_bind_eq_ok ran
            refine .answered rfl ?_ (.known starts made) done
            obtain whole | ⟨name, -, rfl, -⟩ := status
            · exact .inl whole
            · exact .inr rfl

/-- A post names an account only if this is the account that an order is for, and only after the
registration of the account was answered. -/
def Introduced (world : World) (invocation : Invocation) (transcript : Transcript) : Prop :=
  ∀ before exchange after address, transcript = before ++ exchange :: after →
    exchange.1.NamesAccount address →
    (∃ primary others, invocation.command = .order primary others) ∧
      ∃ account known registering ordering, Knows world invocation account known ∧
        Exchanged world known registering ∧ Session.Registered account registering ∧
        before = registering ++ ordering ∧ address = .str account.url

theorem introduced_of_anonymous (anonymous : transcript.Anonymous) :
    Introduced world invocation transcript := by
  rintro before exchange after address rfl names
  exact absurd names (anonymous exchange (by simp) address)

theorem perform_sends (starts : Starts world invocation settings logger) :
    ∃ transcript, Exchanged world (Client.outcome (perform settings invocation) world).2 transcript ∧
      Introduced world invocation transcript := by
  obtain ⟨registering, exchanged, anonymous, usable⟩ := accountOf_sends settings invocation.email world
  rw [perform_eq, Client.outcome_bind]
  cases made : Client.outcome (accountOf settings invocation.email) world with
  | mk result known =>
      rw [made] at exchanged usable
      cases result with
      | error failure => exact ⟨registering, exchanged, introduced_of_anonymous anonymous⟩
      | ok account =>
          obtain ⟨isKnown, registered⟩ := usable account rfl
          obtain ⟨later, sent, orders⟩ := carryOut_sends isKnown invocation.command known
          refine ⟨_, exchanged.trans sent, fun before exchange after address split names => ?_⟩
          have apart : exchange ∉ registering := fun member => anonymous exchange member address names
          obtain ⟨ordering, same, rest⟩ : ∃ ordering, before = registering ++ ordering ∧
              later = ordering ++ exchange :: after := by
            obtain front | ⟨back, rfl, rest⟩ := List.append_eq_append_iff.mp split
            · exact front
            · cases back with
              | nil => exact ⟨[], by simp, by simpa using rest.symm⟩
              | cons other back =>
                  obtain ⟨rfl, -⟩ := List.cons.inj rest
                  exact absurd (by simp) apart
          obtain ⟨isOrder, named⟩ := orders exchange (by simp [rest]) address names
          exact ⟨isOrder, account, known, registering, ordering, .known starts made, exchanged, registered,
            same, named⟩

theorem Goes.sends {report : Report} (goes : Goes world invocation report) :
    ∃ transcript, Exchanged world report.world transcript ∧ Introduced world invocation transcript := by
  cases goes with
  | told | escaped =>
      exact ⟨[], .silent rfl rfl rfl, introduced_of_anonymous (List.forall_mem_nil _)⟩
  | performed starts =>
      rw [world_concluded]
      exact perform_sends starts

/-- The text of an order that was created is read as just these members. -/
structure PrintsOrder (world : World) (invocation : Invocation) (ran : Except Failure Order × World)
    (report : Report) : Prop where
  created : ∀ order after, ran = (.ok order, after) →
    report.ending = .status 0 ∧ report.world = after ∧
      Json.read (Text.bytesOf report.output) = .ok (.obj [
        ("url", .str order.url),
        ("status", (order.resource.status.map fun status => .str status.text).getD .null),
        ("identifiers", .arr (order.resource.identifiers.map fun identifier =>
          .obj [("type", .str identifier.type.text), ("value", identifier.value)])),
        ("authorizations", .arr order.resource.authorizations),
        ("finalize", order.resource.finalize)])
  refused : ∀ fault after, ran = (.error (.fault fault), after) →
    ∃ log, Tells world invocation log fault.message

/-- The certificate of a name is printed as it is kept, if both of its entries are text, and else it is
said that there is none. -/
structure PrintsCertificate (world : World) (invocation : Invocation) (keyEntry chainEntry : Storage.Key)
    (kept : Storage) (report : Report) : Prop where
  whole : ¬ kept.Fails keyEntry → ¬ kept.Fails chainEntry →
    kept.IsText keyEntry ∧ kept.IsText chainEntry →
    report.ending = .status 0 ∧ kept.content? chainEntry = some (Text.bytesOf report.output)
  lacking : ¬ kept.Fails keyEntry → ¬ kept.Fails chainEntry →
    ¬ (kept.IsText keyEntry ∧ kept.IsText chainEntry) →
    report.ending = .status 2 ∧
      report.output = s!"no certificate persisted for {keyEntry.name}\n"
  unread : ∀ fault, kept.get keyEntry = .error (.fault fault) ∨
      ¬ kept.Fails keyEntry ∧ kept.get chainEntry = .error (.fault fault) →
    ∃ log, Tells world invocation log fault.message

/-- The output of a run is whole or absent. -/
structure Complete (world : World) (invocation : Invocation) (report : Report) : Prop where
  ends : (∃ code, report.ending = .status code) ∨
    (∃ defect, report.ending = .failed (.defect defect)) ∧ report.output = ""
  fails_iff : report.ending = .status 1 ↔ ∃ log message, Tells world invocation log message
  told : ∀ log message, Tells world invocation log message →
    report.output = "" ∧ report.errors = log ++ errorLine message
  /-- In every other case the command is answered for an account that is known. -/
  answered : ∀ code, report.ending = .status code → code ≠ 1 →
    (code = 0 ∨ code = 2) ∧ ∃ account known, Knows world invocation account known ∧
      Client.outcome (carryOut account invocation.command) known =
        (.ok ⟨report.output, code⟩, report.world)
  account : ∀ showKey account known, invocation.command = .account showKey →
    Knows world invocation account known →
    report.ending = .status 0 ∧ report.world = known ∧ account.realm = invocation.email ∧
      ∃ text, account.IsKeyText known.storage text ∧
        report.output = account.url ++ "\n" ++ (if showKey then text else "")
  order : ∀ primary others account known, invocation.command = .order primary others →
    Knows world invocation account known → PrintsOrder world invocation
      (Client.outcome (account.order (.str primary) (.arr (others.map .str))) known) report
  certificate : ∀ name account known, invocation.command = .certificate name →
    Knows world invocation account known →
    PrintsCertificate world invocation ⟨invocation.email, .privateKey, name⟩
      ⟨invocation.email, .certificate, name⟩ known.storage report
  /-- Whatever was kept for the owner before is kept when the account is known, but for its key. -/
  kept : ∀ account known, Knows world invocation account known → ∃ settings,
    Opens world invocation settings ∧ ∀ entry : Storage.Key, entry.realm = invocation.email →
      entry.kind ≠ .accountPrivateKey → ∀ bytes,
      (opened settings world).storage.content? entry = some bytes →
      known.storage.content? entry = some bytes
  sends : ∃ transcript, Exchanged world report.world transcript ∧
    Introduced world invocation transcript

theorem tells_of_refused {fault : Fault} (knows : Knows world invocation account known)
    (refused : Client.outcome (carryOut account invocation.command) known =
      (.error (.fault fault), after)) : ∃ log, Tells world invocation log fault.message := by
  obtain ⟨starts, made⟩ := knows
  exact ⟨_, .failed starts (by rw [perform_eq, Client.outcome_bind_ok made, refused])⟩

theorem runInvocation_order {primary : String} {others : List String} (quiet : invocation.debug = false)
    (command : invocation.command = .order primary others)
    (knows : Knows world invocation account known) : PrintsOrder world invocation
      (Client.outcome (account.order (.str primary) (.arr (others.map .str))) known)
      (runInvocation world invocation) := by
  constructor
  · intro order after created
    obtain ⟨logger, same⟩ := runInvocation_of_knows quiet knows
    have printed := read_orderJson created
    rw [same, command, carryOut, Client.outcome_bind_ok created, Client.outcome_pure]
    refine ⟨rfl, rfl, printed.trans ?_⟩
    rw [orderJson]
    cases order.resource.status <;> rfl
  · intro fault after refused
    have failed : Client.outcome (carryOut account invocation.command) known =
        (.error (.fault fault), after) := by
      rw [command, carryOut, Client.outcome_bind_error refused]
    exact tells_of_refused knows failed

theorem runInvocation_certificate {name : String} (quiet : invocation.debug = false)
    (command : invocation.command = .certificate name) (knows : Knows world invocation account known) :
    PrintsCertificate world invocation ⟨account.realm, .privateKey, name⟩
      ⟨account.realm, .certificate, name⟩ known.storage (runInvocation world invocation) := by
  obtain ⟨logger, same⟩ := runInvocation_of_knows quiet knows
  have lookup := account.certificate_lookup name known
  cases looked : Client.outcome (account.certificate name) known with
  | mk result after =>
      rw [looked] at lookup
      constructor
      · intro keyReads chainReads whole
        obtain ⟨certificate, rfl⟩ := lookup.present.mpr ⟨⟨keyReads, chainReads⟩, whole⟩
        obtain ⟨-, -, chain⟩ := (lookup.found certificate).mp rfl
        rw [← Text.Utf8.bytesOf_toByteArray] at chain
        obtain ⟨bytes, held, written⟩ := Option.map_eq_some_iff.mp chain
        rw [same, command, carryOut, Client.outcome_bind_ok looked]
        exact ⟨rfl, held.trans (congrArg some (List.toByteArray_inj.mp written))⟩
      · intro keyReads chainReads lacking
        obtain rfl := lookup.missing.mpr ⟨⟨keyReads, chainReads⟩, lacking⟩
        rw [same, command, carryOut, Client.outcome_bind_ok looked]
        exact ⟨rfl, rfl⟩
      · intro fault unread
        obtain rfl := (lookup.failed (.fault fault)).mpr unread
        have failed : Client.outcome (carryOut account invocation.command) known =
            (.error (.fault fault), after) := by
          rw [command, carryOut, Client.outcome_bind_error looked]
        exact tells_of_refused knows failed

theorem runInvocation_complete (quiet : invocation.debug = false) (world : World) :
    Complete world invocation (runInvocation world invocation) where
  ends := by
    cases (runInvocation_goes quiet world).outcome with
    | told ended => exact .inl ⟨1, ended⟩
    | escaped ended silent => exact .inr ⟨⟨_, ended⟩, silent⟩
    | answered ended => exact .inl ⟨_, ended⟩
  fails_iff := by
    constructor
    · intro failed
      cases (runInvocation_goes quiet world).outcome with
      | told _ tells => exact ⟨_, _, tells⟩
      | escaped ended => simp [failed] at ended
      | answered ended known =>
          rw [failed, Ending.status.injEq] at ended
          omega
    · rintro ⟨log, message, tells⟩
      obtain ⟨after, same⟩ := runInvocation_of_tells quiet tells
      rw [same]
  told log message tells := by
    obtain ⟨after, same⟩ := runInvocation_of_tells quiet tells
    rw [same]
    exact ⟨rfl, rfl⟩
  answered code ended other := by
    cases (runInvocation_goes quiet world).outcome with
    | told failed => simp [failed, eq_comm, other] at ended
    | escaped escaped => simp [escaped] at ended
    | answered answered status knows done =>
        rw [ended, Ending.status.injEq] at answered
        subst answered
        exact ⟨status, _, _, knows, done⟩
  account showKey account known command knows := by
    obtain ⟨logger, same⟩ := runInvocation_of_knows quiet knows
    cases knows with
    | known starts made =>
        obtain ⟨owner, ⟨pem, stored, usable⟩, -⟩ := of_accountOf made
        rw [← owner] at stored
        rw [same, command, carryOut, Client.outcome_pure]
        exact ⟨rfl, rfl, owner, _, account.isKeyText stored usable, rfl⟩
  order primary others account known command knows := runInvocation_order quiet command knows
  certificate name account known command knows := by
    have prints := runInvocation_certificate quiet command knows
    obtain ⟨-, made⟩ := knows
    rwa [(of_accountOf made).1] at prints
  kept account known knows := by
    cases knows with
    | known starts made => exact ⟨_, starts.toOpens, (of_accountOf made).2.2⟩
  sends := (runInvocation_goes quiet world).sends

/-- A command prints its whole answer or nothing, and tells what went wrong where it does not answer. It
sends nothing in the name of an account that is not known. -/
theorem run_prints_all_or_nothing (world : World) (arguments : List String)
    (read : Invocation.read arguments = .ok invocation) (quiet : invocation.debug = false) :
    Complete world invocation (run world arguments) := by
  have same : run world arguments = runInvocation world invocation := by simp only [run, read]
  rw [same]
  exact runInvocation_complete quiet world

theorem eq_ok_of_toOption {ε α : Type} {result : Except ε α} {value : α}
    (known : result.toOption = some value) : result = .ok value := by
  cases result with
  | error e => contradiction
  | ok other => exact congrArg _ (Option.some.inj known)

/-- Where the order is that a command asks for, if the command gets so far as to place it. -/
def orderUrl? (world : World) (config email primary : String) (others : List String) : Option String := do
  let settings ← (Settings.load world.storage.files (.ofString config) world.loader).toOption
  let _ ← (Logging.Logger.initial.configure settings.logging).toOption
  let placing : Client Order := do
    let account ← accountOf settings email
    account.order (.str primary) (.arr (others.map .str))
  let order ← (Client.outcome placing world).1.toOption
  return order.url

/-- An order that is placed is printed with where it is. -/
theorem Complete.order_printed {report : Report} {primary url : String} {others : List String}
    (complete : Complete world invocation report) (command : invocation.command = .order primary others)
    (isFile : world.storage.files.hasFile (.ofString invocation.config) = .ok true)
    (placed : orderUrl? world invocation.config invocation.email primary others = some url) :
    report.ending = .status 0 ∧ ∃ members, Json.read (Text.bytesOf report.output) =
      .ok (.obj (("url", .str url) :: members)) := by
  obtain ⟨settings, loaded, placed⟩ := Option.bind_eq_some_iff.mp placed
  obtain ⟨logger, configured, placed⟩ := Option.bind_eq_some_iff.mp placed
  obtain ⟨order, ordered, located⟩ := Option.bind_eq_some_iff.mp placed
  cases located
  have starts : Starts world invocation settings logger :=
    ⟨⟨isFile, eq_ok_of_toOption loaded⟩, eq_ok_of_toOption configured⟩
  generalize ran : Client.outcome _ world = outcome at ordered
  obtain ⟨result, after⟩ := outcome
  obtain rfl := eq_ok_of_toOption ordered
  obtain ⟨account, known, made, created⟩ := Client.outcome_bind_eq_ok ran
  have prints := complete.order _ _ account known command (.known starts made)
  obtain ⟨done, -, printed⟩ := prints.created _ _ created
  exact ⟨done, _, printed⟩

/-- An order of two names, for an account that is registered first. -/
theorem order_prints_all_or_nothing :
    let arguments := ["-c", "client.yaml", "order", "--email", "foo@bar.com", "example.com", "example.org"]
    let invocation : Invocation :=
      ⟨"client.yaml", false, "foo@bar.com", .order "example.com" ["example.org"]⟩
    let settings := "directory_url: https://acme.test/directory\nstorage_path: store\n"
    let endpoints : Json := .obj [("newNonce", .str "https://acme.test/nonce"),
      ("newAccount", .str "https://acme.test/account"), ("newOrder", .str "https://acme.test/order")]
    let members : List (String × Json) := [
      ("status", .str "pending"),
      ("identifiers", .arr [.obj [("type", .str "dns"), ("value", .str "example.com")],
        .obj [("type", .str "dns"), ("value", .str "example.org")]]),
      ("authorizations", .arr [.str "https://acme.test/authorization/1"]),
      ("finalize", .str "https://acme.test/order/1/finalize")]
    let world : World := {
      replies := [
        .ok ⟨200, [], Text.Utf8.encode (Json.write .compact endpoints)⟩,
        .ok ⟨200, [("Replay-Nonce", "1")], []⟩,
        .ok ⟨201, [("Location", "https://acme.test/account/1")],
          Text.Utf8.encode (Json.write .compact (.obj []))⟩,
        .ok ⟨200, [("Replay-Nonce", "2")], []⟩,
        .ok ⟨201, [("Location", "https://acme.test/order/1")],
          Text.Utf8.encode (Json.write .compact (.obj members))⟩]
      silence := .fault (.noResponse "HEAD" "https://acme.test/nonce" "timed out")
      calls := []
      storage := {
        backend := .memory []
        files := ⟨[(["client.yaml"], .file FileTree.publicMode (Text.bytesOf settings))], fun _ => none⟩
        outages := [] }
      keySource := fun _ => ⟨1, by decide, by decide⟩
      generated := 0
      records := []
      clock := .whole 0
      transports := [] }
    let report := run world arguments
    Invocation.read arguments = .ok invocation ∧ Complete world invocation report ∧
      report.ending = .status 0 ∧ ∃ others, Json.read (Text.bytesOf report.output) =
        .ok (.obj (("url", .str "https://acme.test/order/1") :: others)) := by
  intro arguments invocation settings endpoints members world report
  have read : Invocation.read arguments = .ok invocation := rfl
  have complete := run_prints_all_or_nothing world arguments read rfl
  have placed : orderUrl? world "client.yaml" "foo@bar.com" "example.com" ["example.org"] =
      some "https://acme.test/order/1" := by decide +kernel
  obtain ⟨done, printed⟩ := complete.order_printed rfl (by decide +kernel) placed
  exact ⟨read, complete, done, printed⟩

end CommandLine

end AcmeClient
