import AcmeClient.CommandLine.Run
import AcmeClient.Proofs.Client.Defects
import AcmeClient.Proofs.Logging.Levels
import AcmeClient.Proofs.Settings

namespace AcmeClient

variable {world after : World} {defect : Defect} {settings : Settings}

/-- The text of an entry, if it can be reached and is text. -/
def Storage.text? (s : Storage) (key : Storage.Key) : Option String :=
  (s.content? key).bind fun bytes => (Text.Utf8.decode bytes).toOption.map String.ofList

theorem Account.readText_ok {entry : Storage.Key} {found : Option String}
    (read : Client.outcome (readText entry) world = (.ok found, after)) :
    after = world ∧ found = world.storage.text? entry := by
  obtain ⟨bytes, between, read, done⟩ := Client.outcome_bind_eq_ok read
  rw [Client.outcome_readEntry, Prod.mk.injEq] at read
  obtain ⟨read, rfl⟩ := read
  rw [Storage.text?, ← Storage.get_ok read]
  cases bytes with
  | none =>
      rw [Client.outcome_pure, Prod.mk.injEq, Except.ok.injEq] at done
      exact ⟨done.2.symm, done.1.symm⟩
  | some bytes =>
      rw [Client.outcome_pure, Prod.mk.injEq, Except.ok.injEq] at done
      exact ⟨done.2.symm, done.1.symm⟩

/-- A certificate is missing only where one of its entries cannot be reached or is no text. -/
theorem Account.certificate_none {account : Account} {name : String}
    (missing : Client.outcome (account.certificate name) world = (.ok none, after)) :
    after.storage.text? ⟨account.realm, .privateKey, name⟩ = none ∨
      after.storage.text? ⟨account.realm, .certificate, name⟩ = none := by
  unfold certificate at missing
  rw [Client.outcome_bind, Client.outcome_debug] at missing
  obtain ⟨privateKey, _, found, missing⟩ := Client.outcome_bind_eq_ok missing
  obtain ⟨rfl, rfl⟩ := readText_ok found
  rw [Client.outcome_bind, Client.outcome_debug] at missing
  obtain ⟨chain, _, found, missing⟩ := Client.outcome_bind_eq_ok missing
  obtain ⟨rfl, rfl⟩ := readText_ok found
  rw [Client.outcome_pure, Prod.mk.injEq, Except.ok.injEq] at missing
  obtain ⟨nothing, rfl⟩ := missing
  split at nothing
  · contradiction
  · rename_i lacking
    by_contra both
    obtain ⟨some, rest⟩ := not_or.mp both
    obtain ⟨privateKey, held⟩ := Option.ne_none_iff_exists'.mp some
    obtain ⟨chain, kept⟩ := Option.ne_none_iff_exists'.mp rest
    exact lacking privateKey chain held kept

namespace CommandLine

variable {invocation : Invocation} {answer : Answer} {early : String} {transcript : Transcript}

/-- The ordinary ends of a run: it is done, or it tells that no certificate is kept under a name, or it
tells in one line what went wrong. -/
inductive Foreseen (invocation : Invocation) (report : Report) : Prop
  | done : report.ending = .status 0 → Foreseen invocation report
  | missing {name : String} :
      invocation.command = .certificate name → report.ending = .status 2 →
      report.output = s!"no certificate persisted for {name}\n" →
      (report.world.storage.text? ⟨invocation.email, .privateKey, name⟩ = none ∨
        report.world.storage.text? ⟨invocation.email, .certificate, name⟩ = none) →
      Foreseen invocation report
  | told (log message : String) :
      report.ending = .status 1 → report.output = "" → report.errors = log ++ errorLine message →
      Foreseen invocation report

/-- The settings of an invocation are these. -/
structure Opens (world : World) (invocation : Invocation) (settings : Settings) : Prop where
  isFile : world.storage.files.hasFile (.ofString invocation.config) = .ok true
  loads : Settings.load world.storage.files (.ofString invocation.config) world.loader = .ok settings

/-- The path of the storage holds a null, and this shows: the directory has been read, and the storage
is asked for the account key. -/
structure NullShows (settings : Settings) (world after : World) : Prop where
  null : ∃ path, settings.storagePath = some path ∧ '\x00' ∈ path.toList
  reads : ∃ reply, Exchanged world after [(.get (.str settings.directoryUrl), reply)] ∧
    Reading.directory.comes reply = .ok ()
  clear : world.storage.checkOutage .get .accountPrivateKey = .ok ()

/-- What about a run is not foreseen. -/
inductive Unforeseen (world : World) (invocation : Invocation) (after : World) : Defect → Prop
  /-- A name on the way to the settings file is too long, or it may not be looked at. -/
  | unseen {e : FileError} :
      world.storage.files.hasFile (.ofString invocation.config) = .error e →
      Unforeseen world invocation after (unseen (.ofString invocation.config) e)
  | content {content : Bytes} {defect : Defect} :
      world.storage.files.hasFile (.ofString invocation.config) = .ok true →
      world.storage.files.read (.ofString invocation.config) = .ok content →
      Settings.Unforeseen world.loader content defect → Unforeseen world invocation after defect
  /-- The level of the log is a word that stands for something else. -/
  | lineStyle {settings : Settings} :
      Opens world invocation settings → Text.upperString settings.logging.level = "BASIC_FORMAT" →
      Unforeseen world invocation after
        (.unknownLevel (Text.quotedString Logging.Logger.lineStyle))
  | styleTable {settings : Settings} :
      Opens world invocation settings → Text.upperString settings.logging.level = "_STYLES" →
      Unforeseen world invocation after (.levelNotNumber Logging.Logger.styleTable)
  | nullPath {settings : Settings} :
      Opens world invocation settings → NullShows settings world after →
      Unforeseen world invocation after .nullInPath
  /-- The last reply is upsetting. -/
  | reply {transcript : Transcript} {defect : Defect} :
      Exchanged world after transcript → transcript.Upsets defect →
      Unforeseen world invocation after defect

theorem heeds_carryOut {account : Account} (positive : 1 ≤ account.provider.attempts)
    (command : Command) : Client.Heeds true true (carryOut account command) := by
  cases command with
  | account showKey => exact Client.heeds_pure _
  | order primary others =>
      refine Client.heeds_bind (Account.heeds_order positive _ _) fun _ _ _ _ => ?_
      exact Client.heeds_pure _
  | certificate name =>
      refine Client.heeds_bind (Account.heeds_certificate account name) fun _ found _ _ => ?_
      cases found <;> exact Client.heeds_pure _

/-- The world that a command starts in. -/
def opened (settings : Settings) (world : World) : World :=
  { world with
    storage := { world.storage with backend := .ofPath settings.storagePath }
    transports := world.transports ++ [Provider.transportOf settings] }

/-- A command, without the settings being put to use. -/
def performing (settings : Settings) (invocation : Invocation) : Client Answer := do
  let provider ← Provider.ofSettings settings
  let account ← provider.account invocation.email
  carryOut account invocation.command

theorem outcome_perform (settings : Settings) (invocation : Invocation) (world : World) :
    Client.outcome (perform settings invocation) world =
      Client.outcome (performing settings invocation) (opened settings world) := rfl

theorem exchanged_opened (settings : Settings) (world : World) :
    Exchanged world (opened settings world) [] := .silent rfl rfl rfl

theorem heeds_performing (positive : 1 ≤ settings.attempts) (invocation : Invocation) :
    Client.Heeds false true (performing settings invocation) := by
  refine Client.heeds_bind (Provider.heeds_ofUrl _ _) fun _ provider _ found => ?_
  have allowed : 1 ≤ provider.attempts := by rwa [Provider.attempts_of_ofUrl found]
  refine Client.heeds_bind (Provider.heeds_account allowed _) fun _ account _ made => ?_
  obtain ⟨rfl, -⟩ := Provider.of_account made
  exact heeds_carryOut allowed _

theorem isNameable_opened (settings : Settings) (world : World) :
    (opened settings world).storage.isNameable = false ↔
      ∃ path, settings.storagePath = some path ∧ '\x00' ∈ path.toList := by
  cases given : settings.storagePath with
  | none => simp [opened, given, Storage.isNameable, Storage.Backend.ofPath]
  | some path =>
      by_cases empty : path = ""
      · simp [opened, given, empty, Storage.isNameable, Storage.Backend.ofPath]
      · simp [opened, given, Storage.isNameable, Storage.Backend.ofPath, Location.hasNull_ofString]

theorem account_of_unreadable {provider : Provider} {email : String} {failure : Failure}
    (unread : world.storage.get (Provider.accountEntry email) = .error failure) :
    Client.outcome (provider.account email) world = (.error failure, world) := by
  refine Client.outcome_bind_error (Client.outcome_bind_error ?_)
  rw [Client.outcome_readEntry, unread]

/-- In a storage that cannot be named, a command comes to what its directory comes to, and else to what
the first look at an entry comes to. -/
theorem performing_unnameable (settings : Settings) (invocation : Invocation)
    (unnameable : world.storage.isNameable = false) :
    ∃ reply, Exchanged world (Client.outcome (performing settings invocation) world).2
        [(.get (.str settings.directoryUrl), reply)] ∧
      ∀ defect, (Client.outcome (performing settings invocation) world).1 = .error (.defect defect) ↔
        Reading.directory.comes reply = .error (.defect defect) ∨
          Reading.directory.comes reply = .ok () ∧
            world.storage.get (Provider.accountEntry invocation.email) = .error (.defect defect) := by
  have exchanged := Provider.ofUrl_exchanged settings.directoryUrl settings.attempts world
  have comes := Provider.ofUrl_comes settings.directoryUrl settings.attempts world
  have rests := (Provider.ofUrl_rests settings.directoryUrl settings.attempts world).storage
  refine ⟨world.nextReply, ?_⟩
  rw [performing, Provider.ofSettings, Client.outcome_bind]
  cases directory : Client.outcome (Provider.ofUrl settings.directoryUrl settings.attempts) world with
  | mk result between =>
      rw [directory] at exchanged comes rests
      cases result with
      | error failure =>
          rw [← comes]
          exact ⟨exchanged, fun defect => by simp [Except.map]⟩
      | ok provider =>
          cases unread : world.storage.get (Provider.accountEntry invocation.email) with
          | ok found => simp [Storage.isNameable_of_get_ok unread] at unnameable
          | error failure =>
              have stays : between.storage.get (Provider.accountEntry invocation.email) =
                  .error failure := by rw [rests, unread]
              simp only
              rw [Client.outcome_bind_error (account_of_unreadable stays), ← comes]
              exact ⟨exchanged, fun defect => by simp [Except.map]⟩

theorem perform_defect_iff (positive : 1 ≤ settings.attempts)
    {result : Except Failure Answer}
    (ran : Client.outcome (perform settings invocation) world = (result, after)) (defect : Defect) :
    result = .error (.defect defect) ↔
      (NullShows settings world after ∧ defect = .nullInPath) ∨
        ∃ transcript, Exchanged world after transcript ∧ transcript.Upsets defect := by
  rw [outcome_perform] at ran
  have opens := exchanged_opened settings world
  have holdsNull := isNameable_opened settings world
  cases nameable : (opened settings world).storage.isNameable with
  | true =>
      obtain ⟨transcript, heeded⟩ := heeds_performing positive invocation _ nameable
      rw [ran] at heeded
      have whole := opens.trans heeded.exchanged
      rw [heeded.defect_iff, Transcript.verdict_eq_defect_iff]
      constructor
      · exact fun upsets => .inr ⟨_, whole, upsets⟩
      · rintro (⟨shows, -⟩ | ⟨other, exchanged, upsets⟩)
        · simp [holdsNull.mpr shows.null] at nameable
        · rwa [exchanged.unique whole] at upsets
  | false =>
      obtain ⟨reply, exchanged, comes⟩ := performing_unnameable settings invocation nameable
      rw [ran] at exchanged comes
      have whole := opens.trans exchanged
      rw [comes, Storage.get_eq_defect_iff]
      constructor
      · rintro (upsets | ⟨accepted, -, noOutage, rfl⟩)
        · exact .inr ⟨_, whole, Transcript.verdict_eq_defect_iff.mp upsets⟩
        · exact .inl ⟨⟨holdsNull.mp nameable, ⟨reply, whole, accepted⟩, noOutage⟩, rfl⟩
      · rintro (⟨⟨-, ⟨other, asked, accepted⟩, noOutage⟩, rfl⟩ | ⟨other, asked, upsets⟩)
        · obtain ⟨⟩ := asked.unique whole
          exact .inr ⟨accepted, nameable, noOutage, rfl⟩
        · obtain rfl := asked.unique whole
          exact .inl (Transcript.verdict_eq_defect_iff.mpr upsets)

theorem perform_answers
    (done : Client.outcome (perform settings invocation) world = (.ok answer, after)) :
    answer.status = 0 ∨ ∃ name, invocation.command = .certificate name ∧
      answer = ⟨s!"no certificate persisted for {name}\n", 2⟩ ∧
      (after.storage.text? ⟨invocation.email, .privateKey, name⟩ = none ∨
        after.storage.text? ⟨invocation.email, .certificate, name⟩ = none) := by
  rw [outcome_perform] at done
  obtain ⟨provider, _, -, done⟩ := Client.outcome_bind_eq_ok done
  obtain ⟨account, _, made, done⟩ := Client.outcome_bind_eq_ok done
  obtain ⟨-, named⟩ := Provider.of_account made
  cases command : invocation.command with
  | account showKey =>
      rw [command, carryOut, Client.outcome_pure, Prod.mk.injEq, Except.ok.injEq] at done
      exact .inl (by rw [← done.1])
  | order primary others =>
      rw [command] at done
      obtain ⟨order, _, -, done⟩ := Client.outcome_bind_eq_ok done
      rw [Client.outcome_pure, Prod.mk.injEq, Except.ok.injEq] at done
      exact .inl (by rw [← done.1])
  | certificate name =>
      rw [command] at done
      obtain ⟨found, _, looked, done⟩ := Client.outcome_bind_eq_ok done
      cases found with
      | some certificate =>
          rw [Client.outcome_pure, Prod.mk.injEq, Except.ok.injEq] at done
          exact .inl (by rw [← done.1])
      | none =>
          rw [Client.outcome_pure, Prod.mk.injEq, Except.ok.injEq] at done
          obtain ⟨rfl, rfl⟩ := done
          have missing := Account.certificate_none looked
          rw [named] at missing
          exact .inr ⟨name, rfl, rfl, missing⟩

theorem hasNull_of_hasFile {files : FileTree} {place : Location}
    (found : files.hasFile place = .ok true) : place.hasNull = false := by
  unfold FileTree.hasFile at found
  split at found
  · cases found
  · rename_i nameable
    simpa using nameable

theorem not_upsets_of_unmoved (unmoved : Exchanged world world transcript) :
    ¬ transcript.Upsets defect := by
  obtain rfl := unmoved.unique (.silent rfl rfl rfl)
  rintro ⟨before, call, reply, same, -⟩
  simp at same

theorem Opens.unique {other : Settings} (opens : Opens world invocation settings)
    (others : Opens world invocation other) : settings = other :=
  Except.ok.inj (opens.loads.symm.trans others.loads)

theorem unforeseen_iff_of_opens (opens : Opens world invocation settings) :
    Unforeseen world invocation after defect ↔
      Logging.Logger.levelOf settings.logging.level = .error defect ∨
        (NullShows settings world after ∧ defect = .nullInPath) ∨
        ∃ transcript, Exchanged world after transcript ∧ transcript.Upsets defect := by
  rw [Logging.Logger.levelOf_eq_error_iff]
  constructor
  · intro unforeseen
    cases unforeseen with
    | unseen failed => simp [opens.isFile] at failed
    | content _ read unforeseen =>
        have fails := (Settings.load_eq_defect_iff (hasNull_of_hasFile opens.isFile)).mpr
          ⟨_, read, unforeseen⟩
        simp [opens.loads] at fails
    | lineStyle others word =>
        obtain rfl := opens.unique others
        exact .inl (.inl ⟨word, rfl⟩)
    | styleTable others word =>
        obtain rfl := opens.unique others
        exact .inl (.inr ⟨word, rfl⟩)
    | nullPath others shows =>
        obtain rfl := opens.unique others
        exact .inr (.inl ⟨shows, rfl⟩)
    | reply exchanged upsets => exact .inr (.inr ⟨_, exchanged, upsets⟩)
  · rintro ((⟨word, rfl⟩ | ⟨word, rfl⟩) | ⟨shows, rfl⟩ | ⟨_, exchanged, upsets⟩)
    · exact .lineStyle opens word
    · exact .styleTable opens word
    · exact .nullPath opens shows
    · exact .reply exchanged upsets

/-- Where there are no settings, nothing is asked, and it is up to the settings file alone. -/
theorem unforeseen_iff_of_not_opens (unopened : ∀ settings, ¬ Opens world invocation settings) :
    Unforeseen world invocation world defect ↔
      (∃ e, world.storage.files.hasFile (.ofString invocation.config) = .error e ∧
        defect = unseen (.ofString invocation.config) e) ∨
        (world.storage.files.hasFile (.ofString invocation.config) = .ok true ∧
          Settings.load world.storage.files (.ofString invocation.config) world.loader =
            .error (.defect defect)) := by
  constructor
  · intro unforeseen
    cases unforeseen with
    | unseen failed => exact .inl ⟨_, failed, rfl⟩
    | content isFile read unforeseen =>
        exact .inr ⟨isFile, (Settings.load_eq_defect_iff (hasNull_of_hasFile isFile)).mpr
          ⟨_, read, unforeseen⟩⟩
    | lineStyle opens | styleTable opens | nullPath opens => exact absurd opens (unopened _)
    | reply exchanged upsets => exact absurd upsets (not_upsets_of_unmoved exchanged)
  · rintro (⟨e, failed, rfl⟩ | ⟨isFile, fails⟩)
    · exact .unseen failed
    · obtain ⟨content, read, unforeseen⟩ :=
        (Settings.load_eq_defect_iff (hasNull_of_hasFile isFile)).mp fails
      exact .content isFile read unforeseen

theorem Foreseen.ending_ne {report : Report} (foreseen : Foreseen invocation report)
    (failure : Failure) : report.ending ≠ .failed failure := by
  cases foreseen with
  | done ended | missing _ ended _ _ | told _ _ ended _ _ => simp [ended]

/-- What escapes a run is exactly what about it is not foreseen, and without that the run ends in an
ordinary way, unless everything about reported failures is asked for. -/
structure Ends (world : World) (invocation : Invocation) (report : Report) : Prop where
  escapes_iff : ∀ defect, report.ending = .failed (.defect defect) ↔
    Unforeseen world invocation report.world defect
  foreseen_iff : invocation.debug = false →
    (Foreseen invocation report ↔ ∀ defect, ¬ Unforeseen world invocation report.world defect)

theorem Ends.of_escapes_iff {report : Report}
    (escapes : ∀ defect, report.ending = .failed (.defect defect) ↔
      Unforeseen world invocation report.world defect)
    (others : invocation.debug = false →
      Foreseen invocation report ∨ ∃ defect, report.ending = .failed (.defect defect)) :
    Ends world invocation report where
  escapes_iff := escapes
  foreseen_iff hidden := by
    constructor
    · exact fun foreseen defect unforeseen =>
        foreseen.ending_ne _ ((escapes defect).mpr unforeseen)
    · intro nothing
      obtain foreseen | ⟨defect, escaped⟩ := others hidden
      · exact foreseen
      · exact absurd ((escapes defect).mp escaped) (nothing defect)

theorem runWith_ends (opens : Opens world invocation settings) (early : String) :
    Ends world invocation (runWith world invocation settings early) := by
  cases configured : Logging.Logger.initial.configure settings.logging with
  | error defect =>
      simp only [runWith, configured]
      refine .of_escapes_iff (fun other => ?_) fun _ => .inr ⟨defect, rfl⟩
      rw [unforeseen_iff_of_opens opens, Logging.Logger.configure_eq_error_iff.mp configured]
      constructor
      · rintro ⟨⟩
        exact .inl rfl
      · rintro (same | ⟨shows, -⟩ | ⟨_, exchanged, upsets⟩)
        · cases same
          rfl
        · obtain ⟨reply, asked, -⟩ := shows.reads
          cases asked.unique (.silent rfl rfl rfl)
        · exact absurd upsets (not_upsets_of_unmoved exchanged)
  | ok logger =>
      have leveled (defect : Defect) :
          Logging.Logger.levelOf settings.logging.level ≠ .error defect := fun failed => by
        rw [← Logging.Logger.configure_eq_error_iff, configured] at failed
        contradiction
      cases ran : Client.outcome (perform settings invocation) world with
      | mk outcome after =>
          have same : (perform settings invocation).run.run world = (outcome, after) := ran
          have perform_iff := perform_defect_iff (Settings.one_le_attempts opens.loads) ran
          have unforeseen_iff (defect : Defect) : Unforeseen world invocation after defect ↔
              outcome = .error (.defect defect) := by
            rw [unforeseen_iff_of_opens opens, perform_iff]
            simp only [leveled, false_or]
          cases outcome with
          | ok answer =>
              simp only [runWith, configured, same]
              refine .of_escapes_iff (fun defect => by simp [unforeseen_iff]) fun _ => .inl ?_
              obtain done | ⟨name, command, rfl, missing⟩ := perform_answers ran
              · exact .done (congrArg Ending.status done)
              · exact .missing command rfl rfl missing
          | error failure =>
              cases failure with
              | fault fault =>
                  simp only [runWith, configured, same]
                  cases hidden : invocation.debug with
                  | true =>
                      exact .of_escapes_iff (fun defect => by simp [unforeseen_iff]) (by simp [hidden])
                  | false =>
                      exact .of_escapes_iff (fun defect => by simp [unforeseen_iff])
                        fun _ => .inl (.told _ _ rfl rfl rfl)
              | defect defect =>
                  simp only [runWith, configured, same]
                  exact .of_escapes_iff (fun other => by simp [unforeseen_iff])
                    fun _ => .inr ⟨defect, rfl⟩

theorem runInvocation_ends (world : World) (invocation : Invocation) :
    Ends world invocation (runInvocation world invocation) := by
  cases found : world.storage.files.hasFile (.ofString invocation.config) with
  | error e =>
      have unopened (settings : Settings) : ¬ Opens world invocation settings := fun opens => by
        simp [opens.isFile] at found
      simp only [runInvocation, found]
      refine .of_escapes_iff (fun defect => ?_) fun _ => .inr ⟨_, rfl⟩
      simp [unforeseen_iff_of_not_opens unopened, found, eq_comm (b := defect)]
  | ok isFile =>
      cases isFile with
      | false =>
          have unopened (settings : Settings) : ¬ Opens world invocation settings := fun opens => by
            simp [opens.isFile] at found
          simp only [runInvocation, found]
          refine .of_escapes_iff (fun defect => ?_) fun _ =>
            .inl (.told "" _ rfl rfl String.empty_append.symm)
          simp [unforeseen_iff_of_not_opens unopened, found]
      | true =>
          cases loaded : Settings.load world.storage.files (.ofString invocation.config) world.loader with
          | ok settings =>
              simp only [runInvocation, found, loaded]
              exact runWith_ends ⟨found, loaded⟩ _
          | error failure =>
              have unopened (settings : Settings) : ¬ Opens world invocation settings :=
                fun opens => by simp [opens.loads] at loaded
              cases failure with
              | fault fault =>
                  simp only [runInvocation, found, loaded]
                  refine .of_escapes_iff (fun defect => ?_) fun _ =>
                    .inl (.told "" _ rfl rfl String.empty_append.symm)
                  simp [unforeseen_iff_of_not_opens unopened, found, loaded]
              | defect defect =>
                  simp only [runInvocation, found, loaded]
                  refine .of_escapes_iff (fun other => ?_) fun _ => .inr ⟨defect, rfl⟩
                  simp [unforeseen_iff_of_not_opens unopened, found, loaded]

/-- A line that cannot be read is told. Any other one ends in an ordinary way, except where exactly what
is not foreseen escapes. All texts are Unicode, what no reader of keys can use is told as its caller
expects, and the stack is deep enough for everything but the brackets in a body. -/
theorem run_ends (world : World) (arguments : List String) :
    match Invocation.read arguments with
    | .error _ => (run world arguments).ending = .status 0 ∨ (run world arguments).ending = .status 2
    | .ok invocation => Ends world invocation (run world arguments) := by
  cases read : Invocation.read arguments with
  | error stop => cases stop <;> simp [run, read]
  | ok invocation =>
      have same : run world arguments = runInvocation world invocation := by simp [run, read]
      rw [same]
      exact runInvocation_ends world invocation

/-- A settings file that is no text ends a run in none of the ordinary ways. -/
theorem undecodable_settings_escape :
    ¬ ∀ (world : World) (arguments : List String) (invocation : Invocation),
      Invocation.read arguments = .ok invocation → invocation.debug = false →
      Foreseen invocation (run world arguments) := by
  intro foreseen
  let world : World := {
    replies := [], calls := []
    silence := .fault (.noResponse "HEAD" "https://acme.test/nonce" "timed out")
    storage := ⟨.memory [], ⟨[(["client"], .file FileTree.publicMode [0xff])], fun _ => none⟩, []⟩
    keySource := fun _ => ⟨1, by decide, by decide⟩
    generated := 0, records := [], clock := .whole 0, transports := [] }
  let arguments := ["-c", "client", "account", "--email", "foo@bar.com"]
  have read : Invocation.read arguments =
      .ok ⟨"client", false, "foo@bar.com", .account false⟩ := rfl
  obtain ⟨defect, escapes⟩ : ∃ defect, (run world arguments).ending = .failed (.defect defect) :=
    ⟨_, rfl⟩
  exact (foreseen world arguments _ read rfl).ending_ne _ escapes

end CommandLine

end AcmeClient
