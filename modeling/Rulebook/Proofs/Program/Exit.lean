import Rulebook.Proofs.Program.Resolve

namespace Rulebook

open Audit FileTree Resolution

theorem Service.timely_outcome (service : Service) {ticket : Ticket} (h : ticket.time.WellFormed)
    (request : Request) : (service.outcome ticket request).Timely := by
  intro stamped hstamped
  cases hresolve : service.resolve request with
  | contract contract =>
      rw [outcome_of_contract hresolve] at hstamped
      cases hstamped
      intro instant hinstant
      cases hinstant
      exact h
  | blocked block =>
      rw [outcome_of_blocked hresolve] at hstamped
      cases hstamped

theorem Service.status_entryOf (ticket : Ticket) (request : Request) (outcome : Outcome) :
    (entryOf ticket request outcome).status = outcome.status := by
  cases outcome <;> rfl

namespace Program

/-- The report gives the outcome: a contract on the output, a block among the errors with its
conflicts behind it, or either as one document on the output. The document of a block is read as the
block; that of a contract is read as the contract if it can be read at all, and only then. -/
structure Delivers (palette : Palette) (json : Bool) (ticket : Ticket) (outcome : Outcome)
    (report : Report) : Prop where
  contract : json = false → ∀ stamped, outcome = .contract stamped →
    report.output = stamped.contract.text ++ "\n" ∧ report.errors = ""
  block : json = false → ∀ block, outcome = .blocked block →
    report.output = "" ∧
      report.errors = unlines ((palette.paint .redBold "BLOCKED" ++ " " ++ block.display) ::
        (block.conflicts.getD []).map fun conflict =>
          "  " ++ (conflict.a ++ " <-> " ++ conflict.b) ++ ": " ++ conflict.reason)
  document : json = true →
    report.output = outcome.toJson.indented ++ "\n" ∧ report.errors = ""
  decodes : json = true →
    (∀ stamped, outcome = .contract stamped →
      ticket.time.WellFormed ∧ outcome.toJson.Readable) →
    Json.read Outcome.read report.output = .ok outcome
  readable : json = true → ticket.time.WellFormed → Json.AllNumbers Json.Legible outcome.toJson →
    Json.read Outcome.read report.output = .ok outcome → outcome.toJson.Readable

/-- What becomes of the audit log: to a file that takes something in, the bytes of one line with the
entry for the outcome are appended, whatever the file ends with; otherwise nothing changes. -/
structure Recorded (configuration : Configuration) (request : Request) (outcome : Outcome)
    (prepared left : FileTree) : Prop where
  unlogged : configuration.auditLog = none → left = prepared
  written : ∀ path, configuration.auditLog = some path → prepared.Writable path →
    ∃ place content entry, prepared.Names path place content ∧
      left = prepared.put place (.file (content ++ entry.line.toUTF8)) ∧
      Text.lines entry.line = [entry.toJson.compact] ∧
      entry.status = outcome.status ∧ Service.Records (request, outcome) entry
  refused : ∀ path, configuration.auditLog = some path → ¬ prepared.Writable path →
    left = prepared

theorem delivers_reportOutcome (palette : Palette) (json : Bool) (service : Service)
    (ticket : Ticket) (request : Request) :
    Delivers palette json ticket (service.outcome ticket request)
      (reportOutcome palette json (service.outcome ticket request)) := by
  have htimely (htime : ticket.time.WellFormed) := service.timely_outcome htime request
  generalize service.outcome ticket request = outcome at htimely ⊢
  have hline : (reportOutcome palette true outcome).output = outcome.toJson.indented ++ "\n" :=
    unlines_singleton _
  constructor
  case contract =>
    rintro rfl stamped rfl
    exact ⟨unlines_singleton _, rfl⟩
  case block =>
    rintro rfl block rfl
    exact ⟨rfl, rfl⟩
  case document =>
    rintro rfl
    exact ⟨hline, rfl⟩
  case decodes =>
    rintro rfl hreadable
    rw [hline]
    cases outcome with
    | blocked block => exact block.read_line
    | contract stamped =>
        obtain ⟨htime, hreads⟩ := hreadable stamped rfl
        exact Outcome.read_line_of_readable (htimely htime) hreads
  case readable =>
    rintro rfl htime hnumbers hread
    rw [hline] at hread
    exact Outcome.readable_of_read_line (htimely htime) hnumbers hread

theorem recorded_sinkOf (configuration : Configuration) (service : Service) (ticket : Ticket)
    (request : Request) (prepared : FileTree) :
    Recorded configuration request (service.outcome ticket request) prepared
      ((sinkOf configuration (Service.entryOf ticket request
        (service.outcome ticket request))).run prepared).2 := by
  generalize hentry : Service.entryOf ticket request (service.outcome ticket request) = entry
  have hlogged {path : String} (hlog : configuration.auditLog = some path) :
      (sinkOf configuration entry).run prepared = LogFile.recordIn ⟨path⟩ prepared entry := by
    rw [sinkOf, hlog]
    rfl
  constructor
  case unlogged =>
    intro hlog
    rw [sinkOf, hlog]
    rfl
  case written =>
    intro path hlog hwritable
    obtain ⟨left, happend⟩ := hwritable entry.line.toUTF8
    obtain ⟨place, content, hnames⟩ := exists_names_of_appendBytes happend
    refine ⟨place, content, entry, hnames, ?_, entry.lines_line, ?_, ?_⟩
    · rw [hlogged hlog, LogFile.recordIn_eq, hnames.appendBytes]
    · rw [← hentry, Service.status_entryOf]
    · rw [← hentry]
      exact Service.records_entryOf service ticket request
  case refused =>
    intro path hlog hrefused
    rw [hlogged hlog, LogFile.recordIn_eq]
    cases happend : prepared.appendBytes path entry.line.toUTF8 with
    | ok left =>
        obtain ⟨place, content, hnames⟩ := exists_names_of_appendBytes happend
        exact absurd hnames.writable hrefused
    | error fault => rfl

/-- A run that resolves a request: what its code says, and what it leaves on its output, among its
errors and in its files. -/
structure Resolves (tree : FileTree) (environment : Environment) (terminal : Bool)
    (ticket : Ticket) (arguments : List String) (invocation : Arguments.Invocation)
    (request : Request) (json : Bool) : Prop where
  succeeds : (runIn tree environment terminal ticket arguments).1.code = 0 ↔
    ∃ configuration catalog projects prepared,
      Opens tree environment invocation configuration catalog projects ∧
      Ready tree configuration prepared ∧
      ∃ contract, Service.resolve ⟨catalog, projects⟩ request = .contract contract
  blocked : (runIn tree environment terminal ticket arguments).1.code = 2 ↔
    ∃ configuration catalog projects prepared,
      Opens tree environment invocation configuration catalog projects ∧
      Ready tree configuration prepared ∧
      ∃ block, Service.resolve ⟨catalog, projects⟩ request = .blocked block
  codes : (runIn tree environment terminal ticket arguments).1.code ∈ [0, 1, 2]
  failed : (runIn tree environment terminal ticket arguments).1.code = 1 →
    (runIn tree environment terminal ticket arguments).1.output = "" ∧
      AddsDirectories tree (runIn tree environment terminal ticket arguments).2
  answered : ∀ configuration catalog projects prepared,
    Opens tree environment invocation configuration catalog projects →
    Ready tree configuration prepared →
      AddsDirectories tree prepared ∧
      Delivers (paletteIn tree environment terminal) json ticket
        (Service.outcome ⟨catalog, projects⟩ ticket request)
        (runIn tree environment terminal ticket arguments).1 ∧
      Recorded configuration request (Service.outcome ⟨catalog, projects⟩ ticket request) prepared
        (runIn tree environment terminal ticket arguments).2
  unmoved : ∀ configuration catalog projects prepared,
    Opens tree environment invocation configuration catalog projects →
    Ready tree configuration prepared →
      ∀ tree' environment' terminal' arguments' invocation' configuration' prepared',
        Arguments.parse arguments' = .ok invocation' →
        invocation'.task = .resolve request json →
        Opens tree' environment' invocation' configuration' catalog projects →
        Ready tree' configuration' prepared' →
          (runIn tree' environment' terminal' ticket arguments').1.code =
              (runIn tree environment terminal ticket arguments).1.code ∧
            (runIn tree' environment' terminal' ticket arguments').1.output =
              (runIn tree environment terminal ticket arguments).1.output

theorem code_reportOutcome (palette : Palette) (json : Bool) (outcome : Outcome) :
    (reportOutcome palette json outcome).code = if outcome.isBlocked then 2 else 0 := by
  cases json <;> cases outcome <;> rfl

theorem output_reportOutcome (palette palette' : Palette) (json : Bool) (outcome : Outcome) :
    (reportOutcome palette json outcome).output = (reportOutcome palette' json outcome).output := by
  cases json <;> cases outcome <;> rfl

theorem code_eq_zero_iff (palette : Palette) (json : Bool) (service : Service) (ticket : Ticket)
    (request : Request) :
    (reportOutcome palette json (service.outcome ticket request)).code = 0 ↔
      ∃ contract, service.resolve request = .contract contract := by
  rw [code_reportOutcome]
  cases hresolve : service.resolve request with
  | contract contract => simp [Service.outcome_of_contract hresolve, Outcome.isBlocked]
  | blocked block => simp [Service.outcome_of_blocked hresolve, Outcome.isBlocked]

theorem code_eq_two_iff (palette : Palette) (json : Bool) (service : Service) (ticket : Ticket)
    (request : Request) :
    (reportOutcome palette json (service.outcome ticket request)).code = 2 ↔
      ∃ block, service.resolve request = .blocked block := by
  rw [code_reportOutcome]
  cases hresolve : service.resolve request with
  | contract contract => simp [Service.outcome_of_contract hresolve, Outcome.isBlocked]
  | blocked block => simp [Service.outcome_of_blocked hresolve, Outcome.isBlocked]

section Run

variable {tree : FileTree} {environment : Environment} {terminal : Bool} {ticket : Ticket}
  {arguments : List String} {invocation : Arguments.Invocation} {request : Request} {json : Bool}

theorem resolves_of_ready (hparse : Arguments.parse arguments = .ok invocation)
    (htask : invocation.task = .resolve request json) {configuration : Configuration}
    {catalog : Catalog} {projects : Registry} {prepared : FileTree}
    (hopens : Opens tree environment invocation configuration catalog projects)
    (hready : Ready tree configuration prepared) :
    Resolves tree environment terminal ticket arguments invocation request json := by
  have hrun := runIn_of_ready terminal ticket hparse htask hopens hready
  have hfound (P : Service → Prop) : P ⟨catalog, projects⟩ ↔
      ∃ configuration catalog projects prepared,
        Opens tree environment invocation configuration catalog projects ∧
          Ready tree configuration prepared ∧ P ⟨catalog, projects⟩ := by
    constructor
    · intro h
      exact ⟨configuration, catalog, projects, prepared, hopens, hready, h⟩
    · rintro ⟨configuration', catalog', projects', prepared', hopens', -, h⟩
      obtain ⟨-, rfl, rfl⟩ := hopens.unique hopens'
      exact h
  constructor
  case succeeds =>
    rw [hrun]
    exact (code_eq_zero_iff _ json ⟨catalog, projects⟩ ticket request).trans
      (hfound fun service => ∃ contract, service.resolve request = .contract contract)
  case blocked =>
    rw [hrun]
    exact (code_eq_two_iff _ json ⟨catalog, projects⟩ ticket request).trans
      (hfound fun service => ∃ block, service.resolve request = .blocked block)
  case codes =>
    rw [hrun, code_reportOutcome]
    split <;> simp
  case failed =>
    intro hcode
    rw [hrun, code_reportOutcome] at hcode
    split at hcode <;> cases hcode
  case answered =>
    intro configuration' catalog' projects' prepared' hopens' hready'
    obtain ⟨rfl, rfl, rfl⟩ := hopens.unique hopens'
    obtain rfl := hready.unique hready'
    rw [hrun]
    exact ⟨hready.addsDirectories, delivers_reportOutcome _ json ⟨catalog, projects⟩ ticket request,
      recorded_sinkOf configuration ⟨catalog, projects⟩ ticket request prepared⟩
  case unmoved =>
    intro configuration' catalog' projects' prepared' hopens' hready' tree' environment' terminal'
      arguments' invocation' other otherPrepared hparse' htask' hopens'' hready''
    obtain ⟨rfl, rfl, rfl⟩ := hopens.unique hopens'
    rw [hrun, runIn_of_ready terminal' ticket hparse' htask' hopens'' hready'']
    exact ⟨by rw [code_reportOutcome, code_reportOutcome], output_reportOutcome _ _ json _⟩

theorem resolves_of_missing (hparse : Arguments.parse arguments = .ok invocation)
    (htask : invocation.task = .resolve request json)
    (hmissing : ¬ ∃ configuration catalog projects prepared,
      Opens tree environment invocation configuration catalog projects ∧
        Ready tree configuration prepared) :
    Resolves tree environment terminal ticket arguments invocation request json := by
  obtain ⟨reasons, left, hrun, hadds⟩ := exists_runIn_failed terminal ticket hparse htask hmissing
  have hnone {P : Service → Prop} : ¬ ∃ configuration catalog projects prepared,
      Opens tree environment invocation configuration catalog projects ∧
        Ready tree configuration prepared ∧ P ⟨catalog, projects⟩ := by
    rintro ⟨configuration, catalog, projects, prepared, hopens, hready, -⟩
    exact hmissing ⟨configuration, catalog, projects, prepared, hopens, hready⟩
  have hcode : (runIn tree environment terminal ticket arguments).1.code = 1 := by
    rw [hrun]
    rfl
  constructor
  case succeeds =>
    rw [hcode]
    exact iff_of_false (by decide)
      (@hnone fun service => ∃ contract, service.resolve request = .contract contract)
  case blocked =>
    rw [hcode]
    exact iff_of_false (by decide)
      (@hnone fun service => ∃ block, service.resolve request = .blocked block)
  case codes =>
    rw [hcode]
    decide
  case failed =>
    intro _
    rw [hrun]
    exact ⟨rfl, hadds⟩
  case answered =>
    intro configuration catalog projects prepared hopens hready
    exact absurd ⟨configuration, catalog, projects, prepared, hopens, hready⟩ hmissing
  case unmoved =>
    intro configuration catalog projects prepared hopens hready
    exact absurd ⟨configuration, catalog, projects, prepared, hopens, hready⟩ hmissing

/-- A run that resolves a request does what its code says. -/
theorem resolve_resolves (hparse : Arguments.parse arguments = .ok invocation)
    (htask : invocation.task = .resolve request json) :
    Resolves tree environment terminal ticket arguments invocation request json := by
  by_cases h : ∃ configuration catalog projects prepared,
      Opens tree environment invocation configuration catalog projects ∧
        Ready tree configuration prepared
  · obtain ⟨configuration, catalog, projects, prepared, hopens, hready⟩ := h
    exact resolves_of_ready hparse htask hopens hready
  · exact resolves_of_missing hparse htask h

end Run

/-- A working directory with one project. -/
def projectTree : FileTree :=
  FileTree.empty.put ["work", "p.toml"] (.file "projects=[[\"w\",\"\",\"p\",\"r\"]]".toUTF8)

def loggedEnvironment : Environment :=
  [("COVENANT_PROJECTS", "p.toml"), ("COVENANT_AUDIT_LOG", "log/a.jsonl")]

def presetEnvironment : Environment :=
  [("COVENANT_PROJECTS", "p.toml"), ("COVENANT_CATALOG", "c.toml")]

def presetRequest : Request :=
  Request.new "w" "c"

def presetArguments (json : Bool) : List String :=
  ["resolve", "--project", "w", "--command", "c"] ++ if json then ["--json"] else []

def presetInvocation (json : Bool) : Arguments.Invocation :=
  ⟨none, none, none, none, false, .resolve presetRequest json⟩

def presetTicket : Ticket :=
  ⟨⟨20000, 3600, 0⟩, ⟨1⟩, ⟨2⟩⟩

theorem wellFormed_presetTicket : presetTicket.time.WellFormed :=
  ⟨by decide, Or.inl (by decide), by decide⟩

/-- The catalog that comes with the program has no command `c`, of which the log is told and the
output is not. -/
theorem resolve_resolves_unknown :
    Arguments.parse (presetArguments false) = .ok (presetInvocation false) ∧
    (presetInvocation false).task = .resolve presetRequest false ∧
    Resolves projectTree loggedEnvironment true presetTicket (presetArguments false)
      (presetInvocation false) presetRequest false ∧
    (runIn projectTree loggedEnvironment true presetTicket (presetArguments false)).1.code = 2 ∧
    (runIn projectTree loggedEnvironment true presetTicket (presetArguments false)).1.output =
      "" := by
  have hresolves : Resolves projectTree loggedEnvironment true presetTicket (presetArguments false)
      (presetInvocation false) presetRequest false :=
    resolve_resolves rfl rfl
  have hcode :
      (runIn projectTree loggedEnvironment true presetTicket (presetArguments false)).1.code =
        2 := by
    decide +kernel
  obtain ⟨configuration, catalog, projects, prepared, hopens, hready, block, hblock⟩ :=
    hresolves.blocked.mp hcode
  obtain ⟨-, hdelivers, -⟩ :=
    hresolves.answered configuration catalog projects prepared hopens hready
  exact ⟨rfl, rfl, hresolves, hcode,
    (hdelivers.block rfl block (Service.outcome_of_blocked hblock presetTicket)).1⟩

/-- A catalog in TOML with these constraints in its only preset. -/
def presetChars (constraints : List Char) : List Char :=
  "commands=[[\"c\",\"\",\"review\"]]\nrulesets=[[\"r\",\"\"]]\n".toList ++
    ("stackPresets=[[\"p\",\"\",\"\",\"r\",\x7b".toList ++ (constraints ++ "\x7d]]".toList))

def presetTree (constraints : List Char) : FileTree :=
  projectTree.put ["work", "c.toml"] (.file (String.ofList (presetChars constraints)).toUTF8)

def presetConfiguration : Configuration :=
  ⟨some "c.toml", some "p.toml", none, "info"⟩

/-- A value under so many keys in a row, each in the table of the one before it. -/
def dotted (keys : Nat) (value : List Char) : List Char :=
  ['.'].intercalate (List.replicate keys ['a']) ++ '=' :: value

/-- Two rows of keys, each as long as TOML lets it be or shorter, which together lead deeper than a
JSON text may go. -/
def deepConstraints : List Char :=
  dotted 79 ('\x7b' :: dotted 46 ['1', '\x7d'])

def fineConstraints : List Char :=
  "v=1e-23".toList

/-- The number nearest to `1e-23`, which is printed so and read as the next number above it. -/
def fineNumber : JsonNumber :=
  .double ⟨false, 6805647338418769, -129, by decide⟩

theorem legible_fineNumber : Json.Legible fineNumber := by
  have hchars : Json.numberChars fineNumber = "1e-23".toList := by decide +kernel
  have hnode : Json.numberNode "1e-23".toList =
      (.number (.double ⟨false, 6805647338418770, -129, by decide⟩), []) := rfl
  rw [← hchars] at hnode
  refine Json.Legible.of_numberNode ?_ ⟨'1', _, hchars, Or.inr rfl⟩ hnode
  rw [hchars]
  decide

theorem rereadNumber_fineNumber : Json.rereadNumber fineNumber ≠ fineNumber := by
  decide +kernel

theorem exists_opens_preset (constraints : List Char) (check : Outcome → Bool)
    (hconfigured : ((presetTree constraints).answer (configure
      (environmentIn (presetTree constraints) presetEnvironment)
      (presetInvocation true))).toOption.any (· = presetConfiguration) = true)
    (hcheck : (Toml.read CatalogDocument.read
      (String.ofList (presetChars constraints))).toOption.any (fun document =>
        (Catalog.ofDocument document).toOption.any fun catalog =>
          ((presetTree constraints).answer (openProjects presetConfiguration)).toOption.any
            fun projects : Registry =>
              check (Service.outcome ⟨catalog, projects⟩ presetTicket presetRequest)) = true) :
    ∃ catalog projects, Opens (presetTree constraints) presetEnvironment (presetInvocation true)
      presetConfiguration catalog projects ∧
        check (Service.outcome ⟨catalog, projects⟩ presetTicket presetRequest) = true := by
  obtain ⟨configuration, hconfigured, heq⟩ := exists_ok_of_any hconfigured
  obtain rfl := of_decide_eq_true heq
  obtain ⟨document, hread, hcheck⟩ := exists_ok_of_any hcheck
  obtain ⟨catalog, hcatalog, hcheck⟩ := exists_ok_of_any hcheck
  obtain ⟨projects, hprojects, hcheck⟩ := exists_ok_of_any hcheck
  obtain ⟨format, hformat, heq⟩ : ∃ format,
      Document.Format.ofPath "c.toml" = .ok format ∧ decide (format = .toml) = true :=
    exists_ok_of_any (by decide +kernel)
  obtain rfl := of_decide_eq_true heq
  have hopened : (presetTree constraints).answer (openCatalog presetConfiguration) = .ok catalog :=
    Catalog.answer_load rfl hformat hread hcatalog
  exact ⟨catalog, projects, ⟨hconfigured, hopened, hprojects⟩, hcheck⟩

/-- The outcome is a contract whose document is not read as the outcome. -/
def Unread (outcome : Outcome) : Prop :=
  outcome.isBlocked = false ∧
    Json.read Outcome.read (outcome.toJson.indented ++ "\n") ≠ .ok outcome

theorem exists_unread_deep : ∃ catalog projects,
    Opens (presetTree deepConstraints) presetEnvironment (presetInvocation true)
      presetConfiguration catalog projects ∧
    Unread (Service.outcome ⟨catalog, projects⟩ presetTicket presetRequest) := by
  obtain ⟨catalog, projects, hopens, hcheck⟩ := exists_opens_preset deepConstraints
    (fun outcome => !outcome.isBlocked && decide (Json.deepestLevel < outcome.toJson.depth))
    (by decide +kernel)
    (by
      rw [Toml.read, Toml.document?, String.toList_ofList]
      decide +kernel)
  simp only [Bool.and_eq_true, Bool.not_eq_true', decide_eq_true_eq] at hcheck
  obtain ⟨hcontract, hdeep⟩ := hcheck
  refine ⟨catalog, projects, hopens, hcontract, fun hread => ?_⟩
  exact absurd (Outcome.nests_read.depth_le_of_read (by decide) hread) (Nat.not_le.mpr hdeep)

theorem exists_unread_fine : ∃ catalog projects,
    Opens (presetTree fineConstraints) presetEnvironment (presetInvocation true)
      presetConfiguration catalog projects ∧
    Unread (Service.outcome ⟨catalog, projects⟩ presetTicket presetRequest) := by
  obtain ⟨catalog, projects, hopens, hcheck⟩ := exists_opens_preset fineConstraints
    (fun outcome => !outcome.isBlocked &&
      (decide (Json.AllNumbers (· = fineNumber) outcome.toJson) &&
        !decide (Json.AllNumbers (· ≠ fineNumber) outcome.toJson)))
    (by decide +kernel)
    (by
      rw [Toml.read, Toml.document?, String.toList_ofList]
      decide +kernel)
  simp only [Bool.and_eq_true, Bool.not_eq_true', decide_eq_true_eq, decide_eq_false_iff_not]
    at hcheck
  obtain ⟨hcontract, hall, hsome⟩ := hcheck
  have hlegible : Json.AllNumbers Json.Legible
      (Service.outcome ⟨catalog, projects⟩ presetTicket presetRequest).toJson := by
    refine Json.AllNumbers.imp ?_ _ hall
    rintro _ rfl
    exact legible_fineNumber
  have htimely :=
    Service.timely_outcome ⟨catalog, projects⟩ wellFormed_presetTicket presetRequest
  refine ⟨catalog, projects, hopens, hcontract, fun hread => hsome (Json.AllNumbers.imp ?_ _
    (Outcome.readable_of_read_line htimely hlegible hread).numbers)⟩
  rintro _ hback rfl
  exact rereadNumber_fineNumber hback.rereadNumber_eq

/-- Not every document that a run with code 0 leaves on its output is read as the outcome: a catalog
in TOML may be nested deeper than a JSON text may, and have numbers that JSON reads as others. -/
theorem exists_document_not_read :
    Arguments.parse (presetArguments true) = .ok (presetInvocation true) ∧
    ∀ constraints ∈ [deepConstraints, fineConstraints], ∃ catalog projects,
      Opens (presetTree constraints) presetEnvironment (presetInvocation true) presetConfiguration
        catalog projects ∧
      Ready (presetTree constraints) presetConfiguration (presetTree constraints) ∧
      (runIn (presetTree constraints) presetEnvironment false presetTicket
        (presetArguments true)).1.code = 0 ∧
      Json.read Outcome.read (runIn (presetTree constraints) presetEnvironment false presetTicket
        (presetArguments true)).1.output ≠
          .ok (Service.outcome ⟨catalog, projects⟩ presetTicket presetRequest) := by
  have hparse : Arguments.parse (presetArguments true) = .ok (presetInvocation true) := rfl
  refine ⟨hparse, fun constraints hconstraints => ?_⟩
  obtain ⟨catalog, projects, hopens, hcontract, hread⟩ : ∃ catalog projects,
      Opens (presetTree constraints) presetEnvironment (presetInvocation true)
        presetConfiguration catalog projects ∧
      Unread (Service.outcome ⟨catalog, projects⟩ presetTicket presetRequest) := by
    rcases List.mem_pair.mp hconstraints with rfl | rfl
    · exact exists_unread_deep
    · exact exists_unread_fine
  have hready : Ready (presetTree constraints) presetConfiguration (presetTree constraints) :=
    .unlogged rfl
  obtain ⟨houtput, -⟩ := (delivers_reportOutcome
    (paletteIn (presetTree constraints) presetEnvironment false) true ⟨catalog, projects⟩
    presetTicket presetRequest).document rfl
  refine ⟨catalog, projects, hopens, hready, ?_⟩
  rw [runIn_of_ready false presetTicket hparse rfl hopens hready]
  constructor
  · rw [code_reportOutcome, hcontract]
    rfl
  · rw [houtput]
    exact hread

end Program

end Rulebook
