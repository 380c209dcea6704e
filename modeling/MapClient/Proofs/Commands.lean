import MapClient.CommandLine.Run
import MapClient.Proofs.Operands
import MapClient.Proofs.Overriding
import MapClient.Proofs.Performing

/-!
# What running a command comes to

A command that can be read is refused, before anything is sent, if its settings
cannot be loaded or its log cannot be opened. Otherwise the run is the operation
of the command on a submitter for the base URL of the settings, and its exit
tells the outcome.
-/

set_option autoImplicit false

namespace MapClient

theorem Submitter.courseIn_eq (s : Submitter) (env : Surroundings) (o : Operation)
    (w w' : World) (hscript : w'.script = w.script) (hdrawn : w'.drawn = w.drawn) :
    s.courseIn env o w' = s.courseIn env o w := by
  rw [courseIn, courseIn, hscript, hdrawn]

theorem Submitter.outcomeIn_eq (s : Submitter) (env : Surroundings) (o : Operation)
    (w w' : World) (hscript : w'.script = w.script) (hreadings : w'.readings = w.readings)
    (hdrawn : w'.drawn = w.drawn) : s.outcomeIn env o w' = s.outcomeIn env o w := by
  rw [outcomeIn, outcomeIn, s.courseIn_eq env o w w' hscript hdrawn, hreadings]

namespace CommandLine

open MapClient.Files MapClient.Text

def Exit.Refuses (e : Exit) : Prop := e.status ≠ 0 ∧ e.output = ""

theorem failed_refuses (failure : String) (causes : List String) :
    (Exit.failed "" failure causes).Refuses := by
  constructor
  · exact Nat.one_ne_zero
  · rfl

theorem broken_refuses : Exit.broken.Refuses := by
  constructor
  · decide
  · rfl

theorem ofFault_refuses (f : Settings.Fault) : (Exit.ofFault f).Refuses := by
  rw [Exit.ofFault]
  by_cases h : f.breaksOff = true
  · rw [if_pos h]
    exact broken_refuses
  · rw [if_neg h]
    exact failed_refuses _ _

section
variable {σ : Type} [FileSystem σ]

def Loads [Settings.Capacity] (files : σ) (env : Settings.Environment) (i : Invocation)
    (settings : Settings) : Prop :=
  ∃ path, i.config.or (Settings.defaultFile? env) = some path ∧
    Settings.load (FileSystem.read files) env path i.baseUrl = .ok settings

def Makes (files : σ) (directory : Path) (made : σ) : Prop :=
  (Storage.makeDirectories directory : StateM σ _).run files = (.ok (), made)

def Adds (files : σ) (file : Path) (content : List UInt8) (added : σ) : Prop :=
  (Storage.append file content : StateM σ _).run files = (.ok (), added)

def OpensLog (files : σ) (env : Settings.Environment) (settings : Settings) : Prop :=
  ∃ directory made opened, settings.logPath? env = some directory ∧
    Makes files directory made ∧ Adds made (directory.join (.ofText "client.log")) [] opened

section
variable [Settings.Capacity] (files : σ) (env : Settings.Environment)
  (arguments : List Argument) (i : Invocation)

/-- What is planned once the command line has been read. -/
theorem make_read (h : Invocation.ofArguments arguments = .ok i) :
    Plan.make (FileSystem.read files) env arguments = (Plan.settingsFile i env).bind fun path =>
      match Settings.load (FileSystem.read files) env path i.baseUrl with
      | .error fault => .error (.ofFault fault)
      | .ok settings =>
        match settings.logPath? env with
        | none => .error (.failed "" (Exit.homeless "data") [])
        | some directory =>
          .ok ⟨i.operation, settings, directory, .ofRequest (env.text? "RUST_LOG")⟩ := by
  rw [Plan.make, h]
  change (Plan.settingsFile i env).bind _ = _
  congr 1
  funext path
  cases Settings.load (FileSystem.read files) env path i.baseUrl with
  | error fault => rfl
  | ok settings => rfl

theorem make_unloaded (h : Invocation.ofArguments arguments = .ok i)
    (hno : ¬∃ settings, Loads files env i settings) :
    ∃ e, Plan.make (FileSystem.read files) env arguments = .error e ∧ e.Refuses := by
  rw [make_read files env arguments i h, Plan.settingsFile]
  cases hpath : i.config.or (Settings.defaultFile? env) with
  | none => exact ⟨_, rfl, failed_refuses _ _⟩
  | some path =>
    dsimp only [Except.bind]
    cases hload : Settings.load (FileSystem.read files) env path i.baseUrl with
    | ok settings => exact absurd ⟨settings, path, hpath, hload⟩ hno
    | error fault => exact ⟨_, rfl, ofFault_refuses fault⟩

theorem make_loaded (h : Invocation.ofArguments arguments = .ok i) (settings : Settings)
    (hloads : Loads files env i settings) :
    Plan.make (FileSystem.read files) env arguments =
      match settings.logPath? env with
      | none => .error (.failed "" (Exit.homeless "data") [])
      | some directory =>
        .ok ⟨i.operation, settings, directory, .ofRequest (env.text? "RUST_LOG")⟩ := by
  obtain ⟨path, hpath, hload⟩ := hloads
  rw [make_read files env arguments i h, Plan.settingsFile, hpath]
  dsimp only [Except.bind]
  rw [hload]

end

theorem openLog_run (p : Plan) (files : σ) :
    (p.openLog : StateM σ _).run files =
      match (Storage.makeDirectories p.logDirectory : StateM σ _).run files with
      | (.error fault, made) =>
        (.error (.failed "" "failed to create log directory" [fault.message]), made)
      | (.ok (), made) =>
        match (Storage.append p.logFile [] : StateM σ _).run made with
        | (.error _, opened) => (.error .broken, opened)
        | (.ok (), opened) => (.ok (), opened) := by
  rw [Plan.openLog, StateT.run_bind]
  generalize (Storage.makeDirectories p.logDirectory : StateM σ _).run files = done
  obtain ⟨fault | _, made⟩ := done
  · rfl
  · dsimp only [Id.run, bind]
    change (Storage.append p.logFile [] >>= fun added =>
      pure (added.mapError fun _ => Exit.broken) : StateM σ _).run made = _
    rw [StateT.run_bind]
    generalize (Storage.append p.logFile [] : StateM σ _).run made = done
    obtain ⟨fault | _, opened⟩ := done
    · rfl
    · rfl

theorem openLog_iff (p : Plan) (files opened : σ) :
    (p.openLog : StateM σ _).run files = (.ok (), opened) ↔
      ∃ made, Makes files p.logDirectory made ∧ Adds made p.logFile [] opened := by
  rw [openLog_run]
  constructor
  · intro h
    split at h
    · cases h
    · rename_i made hmade
      split at h
      · cases h
      · rename_i opened' hopened
        obtain rfl : opened' = opened := (Prod.mk.inj h).2
        exact ⟨made, hmade, hopened⟩
  · rintro ⟨made, hmade, hopened⟩
    rw [hmade]
    dsimp only
    rw [hopened]

theorem openLog_error (p : Plan) (files left : σ) (e : Exit)
    (h : (p.openLog : StateM σ _).run files = (.error e, left)) : e.Refuses := by
  rw [openLog_run] at h
  split at h
  · obtain rfl := Except.error.inj (Prod.mk.inj h).1
    exact failed_refuses _ _
  · split at h
    · obtain rfl := Except.error.inj (Prod.mk.inj h).1
      exact broken_refuses
    · cases h

end

/-- The task of a plan is its operation between two events. -/
theorem task_run [Transport.Reader] (s : Surroundings) (p : Plan) (w : World) :
    let submitter := Submitter.ofBase client p.settings.baseUrl
    let begun : World := { w with logged := p.announcement :: w.logged }
    let outcome := submitter.outcomeIn s p.operation begun
    let after := submitter.worldAfter s p.operation begun
    (p.task client).run s w =
      (outcome, { after with logged := outcome.report :: after.logged }) := by
  simp only [Plan.task, Task.run_seq, Task.run_write, Submitter.perform_run, Task.run_pure]

theorem ofOutcome_exit (o : Outcome) :
    (Exit.ofOutcome o).output = o.display ++ "\n" ∧
      ((Exit.ofOutcome o).status = 0 ↔ o.isLoad = true) := by
  rw [Exit.ofOutcome, Outcome.isLoad]
  cases o.ending with
  | load status body => simp
  | error e => simp [Exit.failed]

section
variable {σ : Type} [FileSystem σ] [Settings.Capacity] [Transport.Reader]
variable (s : Surroundings) (files : σ) (env : Settings.Environment)
  (arguments : List Argument) (w : World)

theorem run_refused (e : Exit)
    (h : Plan.make (FileSystem.read files) env arguments = .error e) :
    run s files env arguments w = (⟨e, files⟩, w) := by
  rw [run, h]

theorem run_unlogged (p : Plan) (e : Exit) (left : σ)
    (h : Plan.make (FileSystem.read files) env arguments = .ok p)
    (hlog : (p.openLog : StateM σ _).run files = (.error e, left)) :
    run s files env arguments w = (⟨e, left⟩, w) := by
  simp only [run, h, hlog]

theorem run_performs (p : Plan) (opened : σ)
    (h : Plan.make (FileSystem.read files) env arguments = .ok p)
    (hlog : (p.openLog : StateM σ _).run files = (.ok (), opened)) :
    let submitter := Submitter.ofBase client p.settings.baseUrl
    let ran := run s files env arguments w
    ran.1.exit = .ofOutcome (submitter.outcomeIn s p.operation w) ∧
      ran.2.received = (submitter.courseIn s p.operation w).sent.reverse ++ w.received ∧
      ran.2.script = w.script.drop (submitter.courseIn s p.operation w).sent.length := by
  intro submitter ran
  -- the announcement is logged before, which neither the course nor the outcome looks at
  have hcourse := submitter.courseIn_eq s p.operation w
    { w with logged := [p.announcement] } rfl rfl
  have houtcome := submitter.outcomeIn_eq s p.operation w
    { w with logged := [p.announcement] } rfl rfl rfl
  have hran : ran = run s files env arguments w := rfl
  simp only [run, h, hlog, task_run] at hran
  rw [hran]
  refine ⟨?_, ?_, ?_⟩
  · rw [← houtcome]
  · rw [← hcourse]
    rfl
  · rw [← hcourse]
    rfl

variable (i : Invocation) (h : Invocation.ofArguments arguments = .ok i) (settings : Settings)
include h

theorem run_unopened (hloads : Loads files env i settings)
    (hno : ¬OpensLog files env settings) :
    ∃ e left, run s files env arguments w = (⟨e, left⟩, w) ∧ e.Refuses := by
  have hmake := make_loaded files env arguments i h settings hloads
  cases hpath : settings.logPath? env with
  | none =>
    rw [hpath] at hmake
    exact ⟨_, files, run_refused s files env arguments w _ hmake, failed_refuses _ _⟩
  | some directory =>
    rw [hpath] at hmake
    rcases hlog : (Plan.openLog ⟨i.operation, settings, directory,
        .ofRequest (env.text? "RUST_LOG")⟩ : StateM σ _).run files with ⟨e | _, left⟩
    · exact ⟨e, left, run_unlogged s files env arguments w _ e left hmake hlog,
        openLog_error _ files left e hlog⟩
    · obtain ⟨made, hmade, happend⟩ := (openLog_iff _ files left).mp hlog
      exact absurd ⟨directory, made, left, hpath, hmade, happend⟩ hno

theorem run_opened (hloads : Loads files env i settings)
    (hopens : OpensLog files env settings) :
    let submitter := Submitter.ofBase client settings.baseUrl
    let ran := run s files env arguments w
    ran.1.exit = .ofOutcome (submitter.outcomeIn s i.operation w) ∧
      ran.2.received = (submitter.courseIn s i.operation w).sent.reverse ++ w.received ∧
      ran.2.script = w.script.drop (submitter.courseIn s i.operation w).sent.length := by
  obtain ⟨directory, made, opened, hpath, hmade, happend⟩ := hopens
  have hmake := make_loaded files env arguments i h settings hloads
  rw [hpath] at hmake
  have hlog := (openLog_iff ⟨i.operation, settings, directory,
    .ofRequest (env.text? "RUST_LOG")⟩ files opened).mpr ⟨made, hmade, happend⟩
  obtain ⟨hexit, hreceived, hscript⟩ := run_performs s files env arguments w _ opened hmake hlog
  refine ⟨?_, ?_, ?_⟩
  · exact hexit
  · exact hreceived
  · exact hscript

omit h

/-- Running a command that can be read. Without settings nothing is made or
sent, without a log nothing is sent, and both are failures that print nothing.
Otherwise the run sends what the operation sends with a submitter for the base
URL of the settings, prints its outcome, and succeeds if that is a response. -/
theorem run_as_operation (h : Invocation.ofArguments arguments = .ok i) :
    let ran := run s files env arguments w
    Given i arguments ∧
    ((¬∃ settings, Loads files env i settings) →
      ran.1.exit.status ≠ 0 ∧ ran.1.exit.output = "" ∧ ran.1.files = files ∧ ran.2 = w) ∧
    ∀ settings, Loads files env i settings →
      (¬OpensLog files env settings →
        ran.1.exit.status ≠ 0 ∧ ran.1.exit.output = "" ∧ ran.2 = w) ∧
      (OpensLog files env settings →
        let performed := Session.answer s (.ofBase client settings.baseUrl)
          (.dispatch ⟨i.operation, .collect, false⟩) w
        ∃ outcome, performed.1.result = .finished ⟨.ok, [outcome]⟩ ∧
          ran.2.received = performed.1.requests.reverse ++ w.received ∧
          ran.2.script = performed.2.script ∧
          ran.1.exit.output = outcome.display ++ "\n" ∧
          (ran.1.exit.status = 0 ↔ outcome.isLoad = true)) := by
  intro ran
  refine ⟨readFrom_given .blank arguments i h, ?_, ?_⟩
  · intro hno
    obtain ⟨e, hmake, hstatus, houtput⟩ := make_unloaded files env arguments i h hno
    have hran : ran = (⟨e, files⟩, w) := run_refused s files env arguments w e hmake
    rw [hran]
    exact ⟨hstatus, houtput, rfl, rfl⟩
  · intro settings hloads
    constructor
    · intro hno
      obtain ⟨e, left, hrun, hstatus, houtput⟩ :=
        run_unopened s files env arguments w i h settings hloads hno
      have hran : ran = (⟨e, left⟩, w) := hrun
      rw [hran]
      exact ⟨hstatus, houtput, rfl⟩
    · intro hopens performed
      obtain ⟨hexit, hreceived, hscript⟩ :=
        run_opened s files env arguments w i h settings hloads hopens
      have htells := ofOutcome_exit
        ((Submitter.ofBase client settings.baseUrl).outcomeIn s i.operation w)
      refine ⟨(Submitter.ofBase client settings.baseUrl).outcomeIn s i.operation w, ?_, ?_, ?_,
        ?_, ?_⟩
      · simp only [performed, Session.answer_dispatch]
        rfl
      · simp only [performed, Session.answer_dispatch]
        exact hreceived
      · simp only [performed, Session.answer_dispatch]
        rw [Session.script_left]
        exact hscript
      · rw [hexit]
        exact htells.1
      · rw [hexit]
        exact htells.2

end

def serverCommand : List Argument :=
  ["--config=/etc/maps.toml", "add-server", "A", "--base-url", "http://[::1]", "1.2.3.4"].map utf8

def serverInvocation : Invocation :=
  ⟨.submit (.server "A" "1.2.3.4"), some "http://[::1]", some (.ofText "/etc/maps.toml")⟩

def homeVariable : Settings.Environment := ⟨[(utf8 "HOME", utf8 "/h")]⟩

def hostFiles (settings : String) (access : Access) : Tree where
  top := {}
  working := [utf8 "work"]
  entries := [([utf8 "work"], .directory {}), ([utf8 "etc"], .directory { write := false }),
    ([utf8 "etc", utf8 "maps.toml"], .file { write := false } (utf8 settings)),
    ([utf8 "var"], .directory access)]

def hostSettings : String :=
  "base_url = \"http://maps.local\"\nlog_directory = \"/var/log/maps\"\n"

theorem serverCommand_read :
    Invocation.ofArguments serverCommand = .ok serverInvocation := by
  cbv

theorem hostSettings_read (access : Access) :
    Settings.fileSettings (FileSystem.read (hostFiles hostSettings access))
        (.ofText "/etc/maps.toml") =
      .ok (Settings.Node.ofEntries "/etc/maps.toml"
        [("base_url", .text "http://maps.local"), ("log_directory", .text "/var/log/maps")]) := by
  have hsource : Settings.findSource (FileSystem.read (hostFiles hostSettings access))
      (.ofText "/etc/maps.toml") = some ⟨.ofText "/etc/maps.toml", some hostSettings⟩ := by
    cbv
  have hparsed : Toml.parse? hostSettings =
      some [("base_url", .text "http://maps.local"), ("log_directory", .text "/var/log/maps")] := by
    cbv
  have hplain : (Path.ofText "/etc/maps.toml").plain = "/etc/maps.toml" := by cbv
  rw [Settings.fileSettings, hsource]
  simp only [Settings.Source.settings, hparsed, hplain]

theorem hostSettings_load (access : Access) :
    Settings.load (FileSystem.read (hostFiles hostSettings access)) homeVariable
      (.ofText "/etc/maps.toml") (some "http://[::1]") =
        .ok ⟨"http://[::1]", some "/var/log/maps"⟩ := by
  have henv : homeVariable.settings? = some [] := by cbv
  exact Settings.load_merged_ok _ _ _ _ _ _ _ _ (hostSettings_read access) henv rfl rfl
    Settings.loopback_valid

theorem hostSettings_path :
    (Settings.mk "http://[::1]" (some "/var/log/maps")).logPath? homeVariable =
      some (.ofText "/var/log/maps") := by
  cbv

def hostFilesWith (entries : List (Place × Entry)) : Tree :=
  { hostFiles hostSettings {} with entries := (hostFiles hostSettings {}).entries ++ entries }

theorem hostFiles_open :
    let directories := [([utf8 "var", utf8 "log"], Entry.directory {}),
      ([utf8 "var", utf8 "log", utf8 "maps"], .directory {})]
    let log := [([utf8 "var", utf8 "log", utf8 "maps", utf8 "client.log"], Entry.file {} [])]
    Makes (hostFiles hostSettings {}) (.ofText "/var/log/maps") (hostFilesWith directories) ∧
      Adds (hostFilesWith directories)
        ((Path.ofText "/var/log/maps").join (.ofText "client.log")) []
        (hostFilesWith (directories ++ log)) := by
  intro directories log
  constructor
  · cbv
  · cbv

theorem hostFiles_shut :
    ¬OpensLog (hostFiles hostSettings { write := false }) homeVariable
      ⟨"http://[::1]", some "/var/log/maps"⟩ := by
  rintro ⟨directory, made, -, hpath, hmade, -⟩
  obtain rfl := Option.some.inj (hostSettings_path.symm.trans hpath)
  have hdenied : ((Storage.makeDirectories (.ofText "/var/log/maps") : StateM Tree _).run
      (hostFiles hostSettings { write := false })).1 = .error .denied := by cbv
  rw [hmade] at hdenied
  cases hdenied

theorem hostFiles_unparsed (settings : Settings) :
    ¬Loads (hostFiles "base_url = " {}) homeVariable serverInvocation settings := by
  rintro ⟨path, hpath, hload⟩
  obtain rfl : Path.ofText "/etc/maps.toml" = path := Option.some.inj hpath
  have hsource : Settings.findSource (FileSystem.read (hostFiles "base_url = " {}))
      (.ofText "/etc/maps.toml") = some ⟨.ofText "/etc/maps.toml", some "base_url = "⟩ := by
    cbv
  have hparsed : Toml.parse? "base_url = " = none := by cbv
  rw [Settings.load, Settings.fileSettings, hsource] at hload
  simp only [Settings.Source.settings, hparsed] at hload
  cases hload

def hostRun (settings : String) (access : Access) : Result Tree × World :=
  run .still (hostFiles settings access) homeVariable serverCommand (.start [])

/-- The settings are read and the log is written, or the run ends before anything is sent. -/
theorem serverCommand_run :
    (∃ outcome,
      (Session.answer .still (.ofBase client "http://[::1]")
        (.dispatch ⟨.submit (.server "A" "1.2.3.4"), .collect, false⟩) (.start [])).1.result =
          .finished ⟨.ok, [outcome]⟩ ∧
      (hostRun hostSettings {}).1.exit.output = outcome.display ++ "\n" ∧
      (hostRun hostSettings {}).2.received.length = 1) ∧
    (let ran := hostRun hostSettings { write := false };
      ran.1.exit.status ≠ 0 ∧ ran.1.exit.output = "" ∧ ran.2 = .start []) ∧
    let ran := hostRun "base_url = " {}
    ran.1.exit.status ≠ 0 ∧ ran.1.exit.output = "" ∧
      ran.1.files = hostFiles "base_url = " {} ∧ ran.2 = .start [] := by
  have hloads (access : Access) : Loads (hostFiles hostSettings access) homeVariable
      serverInvocation ⟨"http://[::1]", some "/var/log/maps"⟩ :=
    ⟨.ofText "/etc/maps.toml", rfl, hostSettings_load access⟩
  have hopens : OpensLog (hostFiles hostSettings {}) homeVariable
      ⟨"http://[::1]", some "/var/log/maps"⟩ :=
    ⟨_, _, _, hostSettings_path, hostFiles_open.1, hostFiles_open.2⟩
  unfold hostRun
  refine ⟨?_, ?_, ?_⟩
  · obtain ⟨-, -, hruns⟩ := run_as_operation .still (hostFiles hostSettings {}) homeVariable
      serverCommand (.start []) _ serverCommand_read
    obtain ⟨outcome, hresult, hreceived, -, houtput, -⟩ := (hruns _ (hloads {})).2 hopens
    have hone : (Session.answer .still (.ofBase client "http://[::1]")
        (.dispatch ⟨.submit (.server "A" "1.2.3.4"), .collect, false⟩)
        (.start [])).1.requests.length = 1 := by
      decide +kernel
    refine ⟨outcome, hresult, houtput, ?_⟩
    rw [hreceived, List.length_append, List.length_reverse,
      show (World.start []).received = [] from rfl, List.length_nil, Nat.add_zero]
    exact hone
  · obtain ⟨-, -, hruns⟩ := run_as_operation .still (hostFiles hostSettings { write := false })
      homeVariable serverCommand (.start []) _ serverCommand_read
    exact (hruns _ (hloads _)).1 hostFiles_shut
  · obtain ⟨-, hrefused, -⟩ := run_as_operation .still (hostFiles "base_url = " {})
      homeVariable serverCommand (.start []) _ serverCommand_read
    exact hrefused fun ⟨settings, h⟩ => hostFiles_unparsed settings h

end CommandLine

end MapClient
