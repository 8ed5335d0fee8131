/-
What the settings of the log can do.

A level on the command line, a configured level and a filter asked for in the environment choose among the records of a
run. Nothing else of a run depends on them, with one exception: a level behind an argument that is at fault makes the
run complain of that argument, where it might have complained of a later one.

- `filter_runOn`: the filter of a run that logs anything.
- `unfiltered_of_parse`: a run with a level is the run without it, but for the filter.
- `records_configured`: a configured level logs nothing more or less.
- `onlySelects`: which records are shown, and that nothing else differs.
-/
import BlockProbe.Proofs.Command.Insertion
import BlockProbe.Proofs.Command.Outcome

namespace BlockProbe.Command

open BlockProbe.Files (Attempt)
open BlockProbe.Log (Filter Record)
open BlockProbe.Probe (Target)
open BlockProbe.Settings

/-- the site with another filter asked for, or none -/
def Site.asking (site : Site) (asked : Option String) : Site :=
  { site with environment := fun name => if name = "RUST_LOG" then asked else site.environment name }

/-- everything about a run but which of its records are shown -/
def Transcript.unfiltered (transcript : Transcript) : Transcript := { transcript with filter := [] }

/-- is the record at least as severe as the level? -/
def atLeast (level : Level) (record : Record) : Bool := record.level.rank ≤ level.rank

variable {site : Site} {device : Device} {arguments before after words : List String} {level : Option Level}

/-! ## Filters -/

/-- the filter for a level shows the records that are severe enough -/
theorem select_upTo (level : Level) (records : List Record) :
    (Filter.upTo level).select records = records.filter (atLeast level) := by
  unfold Filter.select
  refine List.filter_congr fun record _ => ?_
  unfold Filter.admits Filter.deciding Filter.upTo
  simp [Log.Directive.covers, Log.Origin.isAmong, Log.Record.meets, Log.stronger, atLeast]

/-- at the last level everything is shown -/
theorem filter_trace (records : List Record) : records.filter (atLeast .trace) = records := by
  refine List.filter_eq_self.2 fun record _ => ?_
  unfold atLeast
  cases record.level <;> rfl

/-! ## Nothing else -/

theorem asking_filter (site : Site) (asked : Option String) : (site.asking asked).environment "RUST_LOG" = asked := by
  simp [Site.asking]

/-- the variable for the filter is none of those that settings are read from -/
theorem load_asking (site : Site) (asked : Option String) :
    load (site.asking asked).tree (site.asking asked).directory (site.asking asked).home
      (site.asking asked).environment = load site.tree site.directory site.home site.environment := by
  refine load_congr ?_ site.tree site.directory site.home
  intro override hmem
  refine if_neg ?_
  intro hname
  simp only [overrides, List.mem_cons, List.not_mem_nil, or_false] at hmem
  rcases hmem with rfl | rfl | rfl | rfl <;> exact absurd hname (by decide)

theorem fail_unfiltered (transcript : Transcript) (failure : Failure) :
    (transcript.fail failure).unfiltered = transcript.unfiltered.fail failure := by
  cases failure <;> rfl

theorem carryOut_unfiltered (made : Plan) (target : Target) (filter other : Filter) (tree : Files.Tree) :
    (carryOut made target filter tree).unfiltered = (carryOut made target other tree).unfiltered := by
  rw [carryOut_eq rfl filter [] tree .empty, carryOut_eq rfl other [] tree .empty]
  rfl

/-- the level of a request does not enter its plan -/
theorem plan_level (request : Request) (level : Option Level) (loaded : Except LoadError Settings) :
    plan { request with level } loaded = plan request loaded := rfl

theorem proceed_unfiltered (asked : Option String) (request : Request) (level : Option Level)
    (loaded : Except LoadError Settings) :
    (proceed (site.asking asked) device { request with level } loaded).unfiltered =
      (proceed site device request loaded).unfiltered := by
  cases hplan : plan request loaded with
  | error failure =>
    rw [proceed_of_failure hplan, proceed_of_failure ((plan_level request level loaded).trans hplan)]
    rw [fail_unfiltered, fail_unfiltered]
    rfl
  | ok made =>
    rw [proceed_of_plan hplan, proceed_of_plan ((plan_level request level loaded).trans hplan)]
    exact carryOut_unfiltered made _ _ _ _

/-- **Nothing but the filter.** A run whose arguments give a level as well, under whatever filter is asked for, is the
run without them in everything but the filter. -/
theorem unfiltered_of_parse (asked : Option String) {other : List String}
    (hparse : parse other = (parse arguments).map fun request => { request with level }) :
    (runOn (site.asking asked) device other).unfiltered = (runOn site device arguments).unfiltered := by
  cases hfirst : parse arguments with
  | error stop =>
    rw [hfirst] at hparse
    rw [runOn_of_stop device hfirst, runOn_of_stop device hparse]
    rfl
  | ok request =>
    rw [hfirst] at hparse
    have hload := load_asking site asked
    cases hloaded : load site.tree site.directory site.home site.environment with
    | waits =>
      rw [hloaded] at hload
      unfold runOn
      rw [hparse, hfirst]
      simp only [Except.map, hloaded, hload]
      rfl
    | failed error =>
      have hfailed : load site.tree site.directory site.home site.environment = .ofExcept (.error error) := hloaded
      rw [runOn_of_load device hfirst hfailed, runOn_of_load device hparse (hload.trans hfailed)]
      exact proceed_unfiltered asked request level (.error error)
    | done settings =>
      have hdone : load site.tree site.directory site.home site.environment = .ofExcept (.ok settings) := hloaded
      rw [runOn_of_load device hfirst hdone, runOn_of_load device hparse (hload.trans hdone)]
      exact proceed_unfiltered asked request level (.ok settings)

/-! ## What is shown -/

theorem fail_filter (transcript : Transcript) (failure : Failure) :
    (transcript.fail failure).filter = transcript.filter := by
  cases failure <;> rfl

theorem proceed_filter (site : Site) (device : Device) (request : Request) (loaded : Except LoadError Settings) :
    (proceed site device request loaded).filter =
      Filter.inForce (site.environment "RUST_LOG") (logLevel request loaded) := by
  cases hplan : plan request loaded with
  | error failure => rw [proceed_of_failure hplan, fail_filter]
  | ok made => rw [proceed_of_plan hplan, carryOut_filter]

/-- a run that logs anything has read its arguments, and shows what its filter says -/
theorem filter_runOn (site : Site) (device : Device) (arguments : List String) :
    (runOn site device arguments).records = [] ∨
      ∃ request loaded, parse arguments = .ok request ∧
        (runOn site device arguments).filter =
          Filter.inForce (site.environment "RUST_LOG") (logLevel request loaded) := by
  cases hparse : parse arguments with
  | error stop =>
    rw [runOn_of_stop device hparse]
    exact .inl (by cases stop <;> rfl)
  | ok request =>
    by_cases hwaits : load site.tree site.directory site.home site.environment = .waits
    · unfold runOn
      rw [hparse]
      simp only [hwaits]
      exact .inl trivial
    · obtain ⟨loaded, hload⟩ := Attempt.ofExcept_of_not_waits hwaits
      rw [runOn_of_load device hparse hload]
      exact .inr ⟨request, loaded, rfl, proceed_filter site device request loaded⟩

theorem log_of_nothing {transcript : Transcript} (h : transcript.records = []) : transcript.log = [] := by
  unfold Transcript.log
  rw [h]
  rfl

/-- a filter that is asked for decides alone -/
theorem log_of_asked {asked : Option String} {filter : Filter} (hasked : asked.bind Filter.parse = some filter)
    (site : Site) (device : Device) (arguments : List String) :
    (runOn (site.asking asked) device arguments).log =
      filter.select (runOn (site.asking asked) device arguments).records := by
  rcases filter_runOn (site.asking asked) device arguments with hnothing | ⟨request, loaded, -, hfilter⟩
  · rw [log_of_nothing hnothing, hnothing]
    rfl
  · have hforce : Filter.inForce ((site.asking asked).environment "RUST_LOG") (logLevel request loaded) = filter := by
      unfold Filter.inForce
      rw [asking_filter, hasked]
      rfl
    unfold Transcript.log
    rw [hfilter, hforce]

/-- without one a level among the arguments decides -/
theorem log_of_level {asked : Option String} (hasked : asked.bind Filter.parse = none) {level : Level}
    (hlevel : ∀ request, parse arguments = .ok request → request.level = some level) (site : Site) (device : Device) :
    (runOn (site.asking asked) device arguments).log =
      (runOn (site.asking asked) device arguments).records.filter (atLeast level) := by
  rcases filter_runOn (site.asking asked) device arguments with hnothing | ⟨request, loaded, hparse, hfilter⟩
  · rw [log_of_nothing hnothing, hnothing]
    rfl
  · have hforce : Filter.inForce ((site.asking asked).environment "RUST_LOG") (logLevel request loaded) =
        .upTo level := by
      unfold Filter.inForce logLevel
      rw [asking_filter, hasked, hlevel request hparse]
      rfl
    unfold Transcript.log
    rw [hfilter, hforce, select_upTo]

/-- a level among the arguments is the request's, if there is a request -/
theorem level_of_words (h : TakesLevel before after) (hwords : LevelWords level words) {request : Request}
    (hparse : parse (before ++ words ++ after) = .ok request) : request.level = level := by
  by_cases hfault : FaultPending before
  · obtain ⟨refusal, hrefused⟩ := parse_of_faultPending h.place hfault (words ++ after)
    rw [← List.append_assoc, hparse] at hrefused
    cases hrefused
  · rw [parse_insert_level h hwords hfault] at hparse
    obtain ⟨without, -, rfl⟩ := map_eq_ok.1 hparse
    rfl

/-! ## Configured levels -/

/-- the level of the settings does not enter the plan -/
theorem plan_log (request : Request) (settings : Settings) (log : LogSettings) :
    plan request (.ok { settings with log }) = plan request (.ok settings) := by
  unfold plan withInterval check
  cases request.path with
  | none => rfl
  | some path => cases request.interval <;> rfl

theorem carryOut_records {made : Plan} {target other : Target} (h : trip made target = trip made other)
    (filter otherFilter : Filter) (tree otherTree : Files.Tree) :
    (carryOut made target filter tree).records = (carryOut made other otherFilter otherTree).records := by
  rw [carryOut_eq h filter otherFilter tree otherTree]

theorem proceed_records {other : Site} {otherDevice : Device} {request : Request} {settings : Settings}
    {log : LogSettings} (htrips : ∀ made, trip made (device.target made) = trip made (otherDevice.target made)) :
    (proceed site device request (.ok settings)).records =
      (proceed other otherDevice request (.ok { settings with log })).records := by
  have hplan := plan_log request settings log
  cases hmade : plan request (.ok settings) with
  | error failure =>
    rw [proceed_of_failure hmade, proceed_of_failure (hplan.trans hmade)]
    cases failure <;> rfl
  | ok made =>
    rw [proceed_of_plan hmade, proceed_of_plan (hplan.trans hmade)]
    exact carryOut_records (htrips made) _ _ _ _

/-- **A configured level logs nothing more or less.** -/
theorem records_configured {other : Site} {otherDevice : Device} {settings : Settings} {log : LogSettings}
    (hload : load site.tree site.directory site.home site.environment = .done settings)
    (hother : load other.tree other.directory other.home other.environment = .done { settings with log })
    (htrips : ∀ made, trip made (device.target made) = trip made (otherDevice.target made))
    (arguments : List String) :
    (runOn site device arguments).records = (runOn other otherDevice arguments).records := by
  have hdone : load site.tree site.directory site.home site.environment = .ofExcept (.ok settings) := hload
  have hdoneOther : load other.tree other.directory other.home other.environment =
    .ofExcept (.ok { settings with log }) := hother
  cases hparse : parse arguments with
  | error stop =>
    rw [runOn_of_stop device hparse, runOn_of_stop otherDevice hparse]
    cases stop <;> rfl
  | ok request =>
    rw [runOn_of_load device hparse hdone, runOn_of_load otherDevice hparse hdoneOther]
    exact proceed_records htrips

/-! ## Two runs -/

theorem runOn_words (h : TakesLevel before after) (site : Site) (device : Device) (asked : Option String)
    (hwords : LevelWords level words) (hfault : ¬ FaultPending before) :
    (runOn (site.asking asked) device (before ++ words ++ after)).unfiltered =
      (runOn site device (before ++ after)).unfiltered :=
  unfiltered_of_parse asked (parse_insert_level h hwords hfault)

/-- behind an argument at fault every run is refused -/
theorem runOn_words_of_fault (h : TakesLevel before after) (site : Site) (device : Device) (asked : Option String)
    (words : List String) (hfault : FaultPending before) :
    ∃ refusal, parse (before ++ words ++ after) = .error (.refused refusal) ∧
      runOn (site.asking asked) device (before ++ words ++ after) = stopped site.tree (.refused refusal) := by
  obtain ⟨refusal, hrefused⟩ := parse_of_faultPending h.place hfault (words ++ after)
  rw [← List.append_assoc] at hrefused
  exact ⟨refusal, hrefused, runOn_of_stop device hrefused⟩

/-- two runs that end alike, print alike, leave the same files and log the same records -/
structure SameRun (first second : Transcript) : Prop where
  outcome : first.outcome = second.outcome
  output : first.output = second.output
  tree : first.tree = second.tree
  records : first.records = second.records

theorem sameRun_of_unfiltered {first second : Transcript} (h : first.unfiltered = second.unfiltered) :
    SameRun first second :=
  ⟨congrArg (·.outcome) h, congrArg (·.output) h, congrArg (·.tree) h, congrArg (·.records) h⟩

variable {asked askedOther : Option String} {levelOther : Option Level} {wordsOther : List String}

theorem sameRun_words (h : TakesLevel before after) (site : Site) (device : Device) (hwords : LevelWords level words)
    (hwordsOther : LevelWords levelOther wordsOther) :
    SameRun (runOn (site.asking asked) device (before ++ words ++ after))
      (runOn (site.asking askedOther) device (before ++ wordsOther ++ after)) := by
  by_cases hfault : FaultPending before
  · obtain ⟨refusal, -, hrun⟩ := runOn_words_of_fault h site device asked words hfault
    obtain ⟨other, -, hrunOther⟩ := runOn_words_of_fault h site device askedOther wordsOther hfault
    rw [hrun, hrunOther]
    exact ⟨rfl, rfl, rfl, rfl⟩
  · exact sameRun_of_unfiltered ((runOn_words h site device asked hwords hfault).trans
      (runOn_words h site device askedOther hwordsOther hfault).symm)

/-- two runs complain of the same, unless one of them alone gives a level behind an argument at fault -/
theorem complaints_words (h : TakesLevel before after) (site : Site) (device : Device) (hwords : LevelWords level words)
    (hwordsOther : LevelWords levelOther wordsOther)
    (hpresent : ¬ FaultPending before ∨ (words = [] ↔ wordsOther = [])) :
    (runOn (site.asking asked) device (before ++ words ++ after)).complaints =
      (runOn (site.asking askedOther) device (before ++ wordsOther ++ after)).complaints := by
  by_cases hfault : FaultPending before
  · have hpresent := hpresent.resolve_left (not_not_intro hfault)
    cases level with
    | none =>
      cases hwords
      cases hpresent.1 rfl
      obtain ⟨refusal, hparse, -⟩ := runOn_words_of_fault h site device asked [] hfault
      rw [runOn_of_stop device hparse, runOn_of_stop device hparse]
      rfl
    | some level =>
      cases levelOther with
      | none =>
        cases hwordsOther
        cases hpresent.2 rfl
        cases hwords
      | some levelOther =>
        obtain ⟨progress, refusal, hbefore, hsettle⟩ := hfault
        have hended := (h.place progress hbefore).1
        rw [runOn_of_stop device (parse_level_of_fault hwords hbefore hended hsettle),
          runOn_of_stop device (parse_level_of_fault hwordsOther hbefore hended hsettle)]
        rfl
  · exact congrArg (·.complaints) ((runOn_words h site device asked hwords hfault).trans
      (runOn_words h site device askedOther hwordsOther hfault).symm)

/-- what a level among the arguments and a filter asked for choose, and that they leave everything else as it is -/
structure OnlySelects (site : Site) (device : Device) (before after : List String) : Prop where
  same : ∀ {asked askedOther : Option String} {level levelOther : Option Level} {words wordsOther : List String},
    LevelWords level words → LevelWords levelOther wordsOther →
    SameRun (runOn (site.asking asked) device (before ++ words ++ after))
      (runOn (site.asking askedOther) device (before ++ wordsOther ++ after))
  complaints : ∀ {asked askedOther : Option String} {level levelOther : Option Level} {words wordsOther : List String},
    LevelWords level words → LevelWords levelOther wordsOther →
    ¬ FaultPending before ∨ (words = [] ↔ wordsOther = []) →
    (runOn (site.asking asked) device (before ++ words ++ after)).complaints =
      (runOn (site.asking askedOther) device (before ++ wordsOther ++ after)).complaints
  leveled : ∀ {asked : Option String} {level : Level} {words traceWords : List String},
    asked.bind Filter.parse = none → LevelWords (some level) words → LevelWords (some .trace) traceWords →
    (runOn (site.asking asked) device (before ++ words ++ after)).log =
      (runOn (site.asking asked) device (before ++ traceWords ++ after)).log.filter (atLeast level)
  filtered : ∀ {asked : Option String} {filter : Filter} {level levelOther : Option Level}
    {words wordsOther : List String},
    asked.bind Filter.parse = some filter → LevelWords level words → LevelWords levelOther wordsOther →
    (runOn (site.asking asked) device (before ++ words ++ after)).log =
      (runOn (site.asking asked) device (before ++ wordsOther ++ after)).log
  configured : ∀ {asked : Option String} {filter : Filter} {level levelOther : Option Level}
    {words wordsOther : List String} {other : Site} {otherDevice : Device} {settings : Settings} {log : LogSettings},
    asked.bind Filter.parse = some filter → LevelWords level words → LevelWords levelOther wordsOther →
    load site.tree site.directory site.home site.environment = .done settings →
    load other.tree other.directory other.home other.environment = .done { settings with log } →
    (∀ made, trip made (device.target made) = trip made (otherDevice.target made)) →
    (runOn (site.asking asked) device (before ++ words ++ after)).log =
      (runOn (other.asking asked) otherDevice (before ++ wordsOther ++ after)).log

/-- **Log settings only select.** Put a level among arguments that give none, where an option can stand, and ask for a
filter, or do neither. Whatever they are, the run ends alike, prints the same, leaves the same files and logs the same
records; it also complains of the same, unless the argument in front of the level is at fault. Where no filter is asked
for, the records shown at a level are those shown at the last level that are severe enough; where one is, neither a
level among the arguments nor a configured one changes which records are shown. -/
theorem onlySelects (site : Site) (device : Device) (h : TakesLevel before after) :
    OnlySelects site device before after where
  same hwords hwordsOther := sameRun_words h site device hwords hwordsOther
  complaints hwords hwordsOther hpresent := complaints_words h site device hwords hwordsOther hpresent
  leveled hasked hwords htrace := by
    rw [log_of_level hasked (fun _ => level_of_words h hwords), log_of_level hasked (fun _ => level_of_words h htrace),
      filter_trace, (sameRun_words h site device hwords htrace).records]
  filtered hasked hwords hwordsOther := by
    rw [log_of_asked hasked, log_of_asked hasked, (sameRun_words h site device hwords hwordsOther).records]
  configured {asked filter level levelOther words wordsOther other otherDevice settings log}
      hasked hwords hwordsOther hload hloadOther htrips := by
    have hconfigured := records_configured ((load_asking site asked).trans hload)
      ((load_asking other asked).trans hloadOther) htrips (before ++ wordsOther ++ after)
    rw [log_of_asked hasked, log_of_asked hasked, ← hconfigured,
      (sameRun_words h site device hwords hwordsOther).records]

/-! A run at two levels, without a filter that can be read and with one, and beside it the run of an operator who
configures another level. -/

def loudSite : Site :=
  { bareSite with environment := fun name => if name = "NVPROBE_LOG" then some "trace" else none }

theorem loudSite_loads : load loudSite.tree loudSite.directory loudSite.home loudSite.environment =
    .done { Settings.default with log := { level := .trace } } := by
  have hlayers : HasLayers loudSite.tree loudSite.directory loudSite.home none none :=
    ⟨rfl, readLayer_of_missing (hasPath_projectPath_missing rfl)⟩
  have hfinish : (ofLayers [none, none] >>= finish loudSite.environment) =
      .ok { Settings.default with log := { level := .trace } } := by cbv
  rw [load_of_layers hlayers, hfinish]
  rfl

theorem takesLevel_path : TakesLevel ["t"] ["--once"] where
  place := by
    intro progress h
    have hread : ["t"].foldlM take {} = .ok { pending := .path "t" } := by cbv
    rw [hread] at h
    cases h
    exact ⟨rfl, fun _ h => by cases h⟩
  before := by decide
  after := by decide

/-- the sample's runs: what is no filter leaves the choice to the level, and a filter takes it -/
theorem stale_onlySelects :
    (TakesLevel ["t"] ["--once"] ∧ LevelWords (some .error) ["--log-level", "ERROR"] ∧
      LevelWords (some .trace) ["--log-level=trace"]) ∧
    (runOn (bareSite.asking (some "=")) staleDevice ["t", "--log-level", "ERROR", "--once"]).log =
      (runOn (bareSite.asking (some "=")) staleDevice ["t", "--log-level=trace", "--once"]).log.filter
        (atLeast .error) ∧
    (runOn (bareSite.asking (some "info")) staleDevice ["t", "--log-level", "ERROR", "--once"]).log =
      (runOn (loudSite.asking (some "info")) staleDevice ["t", "--once"]).log := by
  have hwords : LevelWords (some .error) ["--log-level", "ERROR"] := .detached (by cbv)
  have htrace : LevelWords (some .trace) ["--log-level=trace"] := .attached (by cbv : Level.parse "trace" = .ok .trace)
  have hnone : (some "=").bind Filter.parse = none := by cbv
  have hfilter : (some "info").bind Filter.parse = some [{ greatest := some .info }] := by cbv
  have hselects := onlySelects bareSite staleDevice takesLevel_path
  have hleveled := hselects.leveled hnone hwords htrace
  have hconfigured := hselects.configured hfilter hwords .absent bareSite_loads loudSite_loads fun _ => rfl
  simp only [List.cons_append, List.nil_append] at hleveled hconfigured
  exact ⟨⟨takesLevel_path, hwords, htrace⟩, hleveled, hconfigured⟩

/-! Arguments of which the second is at fault and the third unknown: with a level between them the other one is
complained of. -/

theorem takesLevel_fault : TakesLevel ["--interval", "abc"] ["--bogus", "t"] where
  place := by
    intro progress h
    have hread : ["--interval", "abc"].foldlM take {} = .ok { pending := .given .interval "abc" } := by cbv
    rw [hread] at h
    cases h
    exact ⟨rfl, fun _ h => by cases h⟩
  before := by decide
  after := by decide

/-- a level changes what is complained of -/
theorem level_changes_complaint :
    TakesLevel ["--interval", "abc"] ["--bogus", "t"] ∧ LevelWords (some .debug) ["--log-level", "debug"] ∧
    (run bareSite ["--interval", "abc", "--bogus", "t"]).complaints ≠
      (run bareSite ["--interval", "abc", "--log-level", "debug", "--bogus", "t"]).complaints := by
  have hwithout : parse ["--interval", "abc", "--bogus", "t"] = .error (.refused (.unexpectedArgument "--bogus")) := by
    cbv
  have hreading : parse ["--interval", "abc", "--log-level", "debug", "--bogus", "t"] =
      .error (.refused (.invalidValue "abc" "--interval <SECS>" "invalid digit found in string")) := by cbv
  have hdiffer : (Refusal.unexpectedArgument "--bogus").complaint ≠
      (Refusal.invalidValue "abc" "--interval <SECS>" "invalid digit found in string").complaint := by decide +kernel
  refine ⟨takesLevel_fault, .detached (by cbv), ?_⟩
  unfold run
  rw [runOn_of_stop _ hwithout, runOn_of_stop _ hreading]
  exact fun h => hdiffer (List.singleton_inj.1 h)

end BlockProbe.Command
