import LaunchKit.Session

/-!
# The settings in a history of operations

In a session the environment changes, settings are loaded, injected, forgotten and asked for, and
the tool for relative paths is called. Which settings an operation finds in use can be read off the
operations before it: those injected last, or else those that the environment described when
somebody first asked for settings. Only what lies behind the latest forgetting counts. Warnings
about variables are logged when settings are loaded, and at no other time.

Histories and their moments stand with the latest first.

## Main definitions

* `Session.Operation`, `Session.after`, `Session.moments`: histories of operations.
* `Session.latestUsed?`, `Session.firstAsked?`, `Session.inForce?`: what a history says about the
  settings in use.
* `Session.loadedFrom?`: the environment that an operation loads settings from.

## Main statements

* `Session.cache_after`: the cache behind a history.
* `Session.settings_history`: the settings that are answered, and the warnings that are logged.
-/
namespace LaunchKit.Session

/-! ## Histories -/

/-- What is done in a session with the environment, the settings and the tool that asks for them. -/
inductive Operation where
  | put (entries : List (RawText × RawText))
  | erase (name : RawText)
  | assign (name value : RawText)
  | load (entries : List (RawText × RawText))
  | ask
  | use (settings : Settings)
  | forget
  | relate (path base : Text) (normalize : Bool)

namespace Operation

/-- The records of an operation, and the session behind it. -/
def run : Operation → StateM Session (List Record)
  | put entries => return (← putVariables entries).records
  | erase name => return (← eraseVariable name).records
  | assign name value => return (← assignVariable name value).records
  | load entries => return (← loadSettings entries).records
  | ask => return (← settings).records
  | use settings => return (← useSettings settings).records
  | forget => return (← forgetSettings).records
  | relate path base normalize => return (← relativePath path base normalize).records

/-- Whether an operation needs the settings in use. -/
def asks : Operation → Bool
  | ask => true
  | relate _ _ normalize => normalize
  | _ => false

/-- The settings that an operation injects. -/
def used? : Operation → Option Settings
  | use settings => some settings
  | _ => none

/-- Whether an operation forgets the settings in use. -/
def isForget : Operation → Bool
  | forget => true
  | _ => false

end Operation

/-- An operation in the session that it starts from. -/
structure Moment where
  session : Session
  operation : Operation

/-- The session behind a history. -/
def after (start : Session) : List Operation → Session
  | [] => start
  | operation :: earlier => (operation.run (after start earlier)).2

/-- The moments of a history. -/
def moments (start : Session) : List Operation → List Moment
  | [] => []
  | operation :: earlier => ⟨after start earlier, operation⟩ :: moments start earlier

/-- The moments since the settings were last forgotten. -/
def sinceForgotten (past : List Moment) : List Moment :=
  past.takeWhile (!·.operation.isForget)

/-- The settings that were injected last, if they were not forgotten. -/
def latestUsed? (past : List Moment) : Option Settings :=
  (sinceForgotten past).findSome? (·.operation.used?)

/-- The environment as it was when settings were first asked for since they were last forgotten. -/
def firstAsked? (past : List Moment) : Option Environment :=
  ((sinceForgotten past).filter (·.operation.asks)).getLast?.map (·.session.environment)

/-- The settings in use behind some moments. -/
def inForce? (past : List Moment) : Option Settings :=
  (latestUsed? past).or ((firstAsked? past).map fun environment =>
    (Settings.ofEnvironment environment).1)

/-! ## The cache -/

theorem inForce?_forget (session : Session) (past : List Moment) :
    inForce? (⟨session, .forget⟩ :: past) = none := rfl

theorem inForce?_use (session : Session) (settings : Settings) (past : List Moment) :
    inForce? (⟨session, .use settings⟩ :: past) = some settings := rfl

theorem sinceForgotten_cons {moment : Moment} (h : moment.operation.isForget = false)
    (past : List Moment) :
    sinceForgotten (moment :: past) = moment :: sinceForgotten past :=
  List.takeWhile_cons_of_pos (by rw [h]; rfl)

theorem Operation.used?_of_asks {operation : Operation} (h : operation.asks = true) :
    operation.used? = none := by
  cases operation <;> first | rfl | cases h

theorem Operation.isForget_of_asks {operation : Operation} (h : operation.asks = true) :
    operation.isForget = false := by
  cases operation <;> first | rfl | cases h

theorem latestUsed?_cons {moment : Moment} (h : moment.operation.isForget = false)
    (past : List Moment) :
    latestUsed? (moment :: past) = moment.operation.used?.or (latestUsed? past) := by
  rw [latestUsed?, sinceForgotten_cons h, List.findSome?_cons, latestUsed?]
  cases moment.operation.used? <;> rfl

theorem firstAsked?_cons {moment : Moment} (h : moment.operation.isForget = false)
    (past : List Moment) :
    firstAsked? (moment :: past) =
      if moment.operation.asks then some ((firstAsked? past).getD moment.session.environment)
      else firstAsked? past := by
  rw [firstAsked?, firstAsked?, sinceForgotten_cons h]
  cases hasks : moment.operation.asks with
  | false => rw [List.filter_cons_of_neg (by simp [hasks]), if_neg nofun]
  | true =>
    rw [List.filter_cons_of_pos (by simp [hasks]), if_pos rfl, List.getLast?_cons]
    cases ((sinceForgotten past).filter (·.operation.asks)).getLast? <;> rfl

/-- Asking leaves what is in use, or loads it. -/
theorem inForce?_asks {moment : Moment} (h : moment.operation.asks = true) (past : List Moment) :
    inForce? (moment :: past) =
      some ((inForce? past).getD (Settings.ofEnvironment moment.session.environment).1) := by
  have hforget := Operation.isForget_of_asks h
  rw [inForce?, inForce?, latestUsed?_cons hforget, firstAsked?_cons hforget, if_pos h,
    Operation.used?_of_asks h, Option.none_or]
  cases latestUsed? past with
  | some settings => rfl
  | none => cases firstAsked? past <;> rfl

/-- Other operations change nothing. -/
theorem inForce?_other {moment : Moment} (hforget : moment.operation.isForget = false)
    (hused : moment.operation.used? = none) (hasks : moment.operation.asks = false)
    (past : List Moment) : inForce? (moment :: past) = inForce? past := by
  rw [inForce?, inForce?, latestUsed?_cons hforget, firstAsked?_cons hforget, hused, hasks,
    Option.none_or, if_neg nofun]

theorem cache_fetch (cache : SettingsCache) (environment : Environment) :
    (cache.fetch environment).2.2 =
      some (cache.getD (Settings.ofEnvironment environment).1) := by
  cases cache <;> rfl

theorem cache_loadSettings (entries : List (RawText × RawText)) (session : Session) :
    (loadSettings entries session).2.cache = session.cache := by
  simp only [loadSettings, putVariables, bind, StateT.bind]
  rcases session.environment.putAll entries with ⟨_ | _, environment⟩ <;> rfl

/-- One operation keeps the cache as the moments say. -/
theorem cache_run {session : Session} {past : List Moment} (h : session.cache = inForce? past)
    (operation : Operation) :
    (operation.run session).2.cache = inForce? (⟨session, operation⟩ :: past) := by
  cases operation with
  | put | erase | assign =>
    rw [inForce?_other rfl rfl rfl, ← h]
    rfl
  | load entries =>
    rw [inForce?_other rfl rfl rfl, ← h]
    exact cache_loadSettings entries session
  | ask =>
    rw [inForce?_asks rfl, ← h]
    exact cache_fetch session.cache session.environment
  | use settings => exact (inForce?_use session settings past).symm
  | forget => exact (inForce?_forget session past).symm
  | relate path base normalize =>
    cases normalize with
    | false =>
      rw [inForce?_other rfl rfl rfl, ← h]
      rfl
    | true =>
      rw [inForce?_asks rfl, ← h]
      exact cache_fetch session.cache session.environment

/-- **The cache behind a history**, in a session that starts without one. -/
theorem cache_after {start : Session} (hstart : start.cache = none) (history : List Operation) :
    (after start history).cache = inForce? (moments start history) := by
  induction history with
  | nil => exact hstart
  | cons operation earlier ih => exact cache_run ih operation

/-- Each moment of a history comes with the cache that the moments before it say. -/
theorem cache_moment {start : Session} (hstart : start.cache = none) {history : List Operation}
    {later past : List Moment} {moment : Moment}
    (h : moments start history = later ++ moment :: past) :
    moment.session.cache = inForce? past := by
  induction history generalizing later with
  | nil => simp [moments] at h
  | cons operation earlier ih =>
    cases later with
    | nil =>
      obtain ⟨rfl, rfl⟩ := List.cons.inj h
      exact cache_after hstart earlier
    | cons _ later => exact ih (List.cons.inj h).2

/-! ## Warnings -/

/-- The records of an operation that tell of variables of no use. -/
def Moment.warnings (moment : Moment) : List Record :=
  (moment.operation.run moment.session).1.filter (·.source = .settings)

/-- The environment that settings are loaded from at a moment, if they are. -/
def loadedFrom? (moment : Moment) (past : List Moment) : Option Environment :=
  match moment.operation with
  | .load entries =>
    match moment.session.environment.putAll entries with
    | (.ok _, environment) => some environment
    | (.error _, _) => none
  | operation =>
    if operation.asks && (inForce? past).isNone then some moment.session.environment else none

/-- The warnings of settings that are loaded from an environment, or not loaded, as the log shows
them. -/
def shownWarnings (setup : LogSetup) : Option Environment → List Record
  | some environment => (Settings.ofEnvironment environment).2.filter setup.shows
  | none => []

theorem source_ofEnvironment {environment : Environment} {record : Record}
    (h : record ∈ (Settings.ofEnvironment environment).2) : record.source = .settings := by
  obtain ⟨warning, -, rfl⟩ := List.mem_map.mp h
  rfl

theorem source_relatePaths {path base : Text} {record : Record}
    (h : record ∈ (Tools.relatePaths path base).records) : record.source = .tools := by
  rw [Tools.relatePaths] at h
  split at h
  · rw [Report.records_after, List.mem_append, List.mem_singleton] at h
    obtain rfl := h.resolve_right nofun
    rfl
  · cases h

theorem source_relateConverted {fold : Bool} {path base : Text} {record : Record}
    (h : record ∈ (Tools.relateConverted fold path base).records) : record.source = .tools := by
  rw [Tools.relateConverted] at h
  split at h
  · exact source_relatePaths h
  · cases h

theorem source_assign {environment : Environment} {name value : RawText} {record : Record}
    (h : record ∈ (environment.assign name value).1.records) : record.source = .environment := by
  rw [Environment.assign] at h
  split at h
  · rw [Report.records_after, List.mem_append, List.mem_singleton] at h
    obtain rfl := h.resolve_right nofun
    rfl
  · split at h <;> cases h

/-- Nothing but warnings comes of loading. -/
theorem filter_shownWarnings (setup : LogSetup) (environment : Option Environment) :
    (shownWarnings setup environment).filter (·.source = .settings) =
      shownWarnings setup environment := by
  refine List.filter_eq_self.mpr fun record hmem => decide_eq_true ?_
  cases environment with
  | none => cases hmem
  | some environment => exact source_ofEnvironment (List.mem_filter.mp hmem).1

/-- Records of other parts of the program are no warnings. -/
theorem filter_foreign {records : List Record} {source : Source}
    (h : ∀ record ∈ records, record.source = source) (hsource : source ≠ .settings)
    (setup : LogSetup) :
    (records.filter setup.shows).filter (·.source = .settings) = [] := by
  refine List.filter_eq_nil_iff.mpr fun record hmem => ?_
  rw [h record (List.mem_filter.mp hmem).1, decide_eq_true_eq]
  exact hsource

/-- Settings are fetched with the warnings of loading, where there were none in use. -/
theorem filter_fetch (setup : LogSetup) (cache : SettingsCache) (environment : Environment) :
    (cache.fetch environment).2.1.filter setup.shows =
      shownWarnings setup (if cache.isNone then some environment else none) := by
  cases cache <;> rfl

theorem records_loadSettings (entries : List (RawText × RawText)) (session : Session) :
    (loadSettings entries session).1.records =
      shownWarnings session.log (match session.environment.putAll entries with
        | (.ok _, environment) => some environment
        | (.error _, _) => none) := by
  simp only [loadSettings, putVariables, bind, StateT.bind]
  rcases session.environment.putAll entries with ⟨_ | _, environment⟩
  · rfl
  · exact congrArg (List.filter _) (List.append_nil _)

theorem records_settings (session : Session) :
    (settings session).1.records =
      (session.cache.fetch session.environment).2.1.filter session.log.shows :=
  congrArg (List.filter _) (List.append_nil _)

theorem records_relativePath (session : Session) (path base : Text) :
    (relativePath path base true session).1.records =
      (session.cache.fetch session.environment).2.1.filter session.log.shows ++
        (Tools.relateConverted (session.cache.fetch session.environment).1.lowercasePaths
          path base).records.filter session.log.shows :=
  List.filter_append ..

/-- **The warnings of one operation** are those of loading settings, if it does. -/
theorem warnings_eq {moment : Moment} {past : List Moment}
    (h : moment.session.cache = inForce? past) :
    moment.warnings = shownWarnings moment.session.log (loadedFrom? moment past) := by
  obtain ⟨session, operation⟩ := moment
  rw [Moment.warnings, ← filter_shownWarnings]
  cases operation with
  | put | erase | use | forget => rfl
  | assign name value => exact filter_foreign (fun _ => source_assign) (by decide) session.log
  | load entries => exact congrArg _ (records_loadSettings entries session)
  | ask =>
    refine congrArg _ ((records_settings session).trans ?_)
    rw [filter_fetch, h]
    rfl
  | relate path base normalize =>
    cases normalize with
    | false => exact filter_foreign (fun _ => source_relatePaths) (by decide) session.log
    | true =>
      refine (congrArg _ (records_relativePath session path base)).trans ?_
      rw [List.filter_append, filter_foreign (fun _ => source_relateConverted) (by decide),
        List.append_nil, filter_fetch, h]
      rfl

/-! ## Any history -/

/-- **The settings in a history.** In a session that starts without settings in use, asking for
them behind any operations gives those that were injected last, if they were not forgotten since,
and otherwise what the environment described when they were first asked for since they were last
forgotten; if they were not, it describes them now. Each operation has exactly the warnings of the
settings that it loads, and none if it loads none. -/
theorem settings_history (start : Session) (hstart : start.cache = none)
    (history : List Operation) :
    (settings (after start history)).1.outcome =
        .ok ((latestUsed? (moments start history)).getD (Settings.ofEnvironment
          ((firstAsked? (moments start history)).getD (after start history).environment)).1) ∧
      ∀ later moment past, moments start history = later ++ moment :: past →
        moment.warnings = shownWarnings moment.session.log (loadedFrom? moment past) := by
  refine ⟨?_, fun later moment past hmoments => warnings_eq (cache_moment hstart hmoments)⟩
  change Except.ok ((after start history).cache.fetch (after start history).environment).1 = _
  rw [cache_after hstart, inForce?]
  cases latestUsed? (moments start history) with
  | some settings => rfl
  | none => cases firstAsked? (moments start history) <;> rfl

/-- Settings are injected and forgotten, a call of the tool then loads what the environment says,
and the environment changes again before the settings are asked for. -/
theorem settings_history_loaded_by_tool :
    let history : List Operation :=
      [.put [("LAUNCHER_HTTP_HOST", "later")], .load [("LAUNCHER_TRANSPORT", "smoke")],
        .relate "c:\\a" "c:\\b" true, .put [("LAUNCHER_HTTP_HOST", "host")], .forget,
        .use { logPayloads := true }, .ask]
    (settings (after {} history)).1.outcome = .ok { httpHost := "host" } ∧
      ∀ later moment past, moments {} history = later ++ moment :: past →
        moment.warnings = shownWarnings moment.session.log (loadedFrom? moment past) := by
  intro history
  have h := settings_history {} rfl history
  exact ⟨h.1.trans (congrArg Except.ok (by decide)), h.2⟩

end LaunchKit.Session
