/-
Overrides taken one by one.

`overrides_taken`: when all overrides are taken, each of the four settings is what its variable reads as, or what it was
where the variable is not set, and the two settings without a variable are what they were. `applyEach_congr`: no other
variable is looked at.
-/
import BlockProbe.Proofs.Results
import BlockProbe.Settings.Overrides

namespace BlockProbe.Settings

/-- a reading of a variable's text, and what it makes of a setting -/
def ReadsVariable {ε β : Type} (environment : Environment) (name : String) (read : String → Except ε β) :
    β → β → Prop :=
  Through (fun _ text after => read text = .ok after) (environment name)

/-- the interval as a variable spells it -/
def readInterval (text : String) : Except Decimal.Malformed UInt64 := Decimal.readUnsigned (Text.trimmed text)

/-- an override that stores what its variable reads as, in one place of the settings -/
def Override.Stores {ε β : Type} (override : Override) (read : String → Except ε β)
    (store : Settings → β → Settings) : Prop :=
  ∀ text before after, override.apply text before = .ok after →
    ∃ value, read text = .ok value ∧ store before value = after

theorem intervalOverride_stores :
    intervalOverride.Stores readInterval fun settings secs => { settings with heartbeat.intervalSecs := secs } := by
  intro text before after h
  simp only [intervalOverride] at h
  unfold readInterval
  cases hread : Decimal.readUnsigned (Text.trimmed text) with
  | error malformed => rw [hread] at h; cases h
  | ok secs => rw [hread] at h; cases h; exact ⟨secs, rfl, rfl⟩

theorem verifyOverride_stores :
    verifyOverride.Stores (parseBoolean "NVPROBE_VERIFY")
      fun settings verify => { settings with probe.verify := verify } :=
  fun _ _ _ h => map_eq_ok.1 h

theorem syncOverride_stores :
    syncOverride.Stores (parseBoolean "NVPROBE_SYNC") fun settings sync => { settings with probe.sync := sync } :=
  fun _ _ _ h => map_eq_ok.1 h

theorem levelOverride_stores :
    levelOverride.Stores Level.parse fun settings level => { settings with log.level := level } := by
  intro text before after h
  simp only [levelOverride] at h
  cases hread : Level.parse text with
  | error message => rw [hread] at h; cases h
  | ok level => rw [hread] at h; cases h; exact ⟨level, rfl, rfl⟩

/-- an override that is taken makes its setting what the variable reads as -/
theorem Override.Stores.taken {ε β : Type} {override : Override} {read : String → Except ε β}
    {store : Settings → β → Settings} (hstores : override.Stores read store) {environment : Environment}
    {before after : Settings}
    (h : Through (fun before text after => override.apply text before = .ok after)
      (environment override.name) before after)
    (view : Settings → β) (hview : ∀ settings value, view (store settings value) = value) :
    ReadsVariable environment override.name read (view before) (view after) := by
  unfold ReadsVariable
  cases henv : environment override.name with
  | none => rw [henv] at h; exact congrArg view h
  | some text =>
    rw [henv] at h
    obtain ⟨value, hread, rfl⟩ := hstores text before after h
    exact (hview before value).symm ▸ hread

/-- an override that is taken leaves what it does not store in as it was -/
theorem Override.Stores.kept {ε β γ : Type} {override : Override} {read : String → Except ε β}
    {store : Settings → β → Settings} (hstores : override.Stores read store) {environment : Environment}
    {before after : Settings}
    (h : Through (fun before text after => override.apply text before = .ok after)
      (environment override.name) before after)
    (view : Settings → γ) (hview : ∀ settings value, view (store settings value) = view settings) :
    view after = view before := by
  cases henv : environment override.name with
  | none => rw [henv] at h; exact congrArg view h
  | some text =>
    rw [henv] at h
    obtain ⟨value, _, rfl⟩ := hstores text before after h
    exact hview before value

/-- one override taken: what its variable makes of the settings, before the others are taken -/
theorem applyEach_cons_ok {environment : Environment} {override : Override} {rest : List Override}
    {before after : Settings} (h : applyEach environment (override :: rest) before = (after, .ok ())) :
    ∃ middle, Through (fun before text after => override.apply text before = .ok after)
      (environment override.name) before middle ∧ applyEach environment rest middle = (after, .ok ()) := by
  rw [applyEach] at h
  cases henv : environment override.name with
  | none => rw [henv] at h; exact ⟨before, rfl, h⟩
  | some text =>
    rw [henv] at h
    cases happly : override.apply text before with
    | error reason => simp only [happly, Prod.mk.injEq, reduceCtorEq, and_false] at h
    | ok middle => simp only [happly] at h; exact ⟨middle, happly, h⟩

/-- overrides look at their own variables only -/
theorem applyEach_congr {environment other : Environment} {taken : List Override}
    (h : ∀ override ∈ taken, environment override.name = other override.name) (settings : Settings) :
    applyEach environment taken settings = applyEach other taken settings := by
  induction taken generalizing settings with
  | nil => rfl
  | cons override rest ih =>
    have hrest := ih fun later hlater => h later (List.mem_cons_of_mem override hlater)
    rw [applyEach, applyEach, h override List.mem_cons_self]
    cases other override.name with
    | none => exact hrest settings
    | some text =>
      dsimp only
      cases override.apply text settings with
      | error reason => rfl
      | ok middle => exact hrest middle

/-- **Each override has its setting.** -/
theorem overrides_taken {environment : Environment} {before after : Settings}
    (h : applyOverrides environment before = (after, .ok ())) :
    ReadsVariable environment "NVPROBE_HEARTBEAT_SECS" readInterval
      before.heartbeat.intervalSecs after.heartbeat.intervalSecs ∧
    ReadsVariable environment "NVPROBE_VERIFY" (parseBoolean "NVPROBE_VERIFY")
      before.probe.verify after.probe.verify ∧
    ReadsVariable environment "NVPROBE_SYNC" (parseBoolean "NVPROBE_SYNC") before.probe.sync after.probe.sync ∧
    ReadsVariable environment "NVPROBE_LOG" Level.parse before.log.level after.log.level ∧
    after.probe.fileMode = before.probe.fileMode ∧ after.heartbeat.message = before.heartbeat.message := by
  obtain ⟨s1, hinterval, h⟩ := applyEach_cons_ok h
  obtain ⟨s2, hverify, h⟩ := applyEach_cons_ok h
  obtain ⟨s3, hsync, h⟩ := applyEach_cons_ok h
  obtain ⟨s4, hlevel, h⟩ := applyEach_cons_ok h
  obtain rfl : s4 = after := congrArg Prod.fst h
  refine ⟨?_, ?_, ?_, ?_, ?_, ?_⟩
  · have hstored := intervalOverride_stores.taken hinterval (·.heartbeat.intervalSecs) fun _ _ => rfl
    rw [levelOverride_stores.kept hlevel (·.heartbeat.intervalSecs) fun _ _ => rfl,
      syncOverride_stores.kept hsync (·.heartbeat.intervalSecs) fun _ _ => rfl,
      verifyOverride_stores.kept hverify (·.heartbeat.intervalSecs) fun _ _ => rfl]
    exact hstored
  · have hstored := verifyOverride_stores.taken hverify (·.probe.verify) fun _ _ => rfl
    rw [levelOverride_stores.kept hlevel (·.probe.verify) fun _ _ => rfl,
      syncOverride_stores.kept hsync (·.probe.verify) fun _ _ => rfl]
    rwa [intervalOverride_stores.kept hinterval (·.probe.verify) fun _ _ => rfl] at hstored
  · have hstored := syncOverride_stores.taken hsync (·.probe.sync) fun _ _ => rfl
    rw [levelOverride_stores.kept hlevel (·.probe.sync) fun _ _ => rfl]
    rwa [verifyOverride_stores.kept hverify (·.probe.sync) fun _ _ => rfl,
      intervalOverride_stores.kept hinterval (·.probe.sync) fun _ _ => rfl] at hstored
  · have hstored := levelOverride_stores.taken hlevel (·.log.level) fun _ _ => rfl
    rwa [syncOverride_stores.kept hsync (·.log.level) fun _ _ => rfl,
      verifyOverride_stores.kept hverify (·.log.level) fun _ _ => rfl,
      intervalOverride_stores.kept hinterval (·.log.level) fun _ _ => rfl] at hstored
  · rw [levelOverride_stores.kept hlevel (·.probe.fileMode) fun _ _ => rfl,
      syncOverride_stores.kept hsync (·.probe.fileMode) fun _ _ => rfl,
      verifyOverride_stores.kept hverify (·.probe.fileMode) fun _ _ => rfl,
      intervalOverride_stores.kept hinterval (·.probe.fileMode) fun _ _ => rfl]
  · rw [levelOverride_stores.kept hlevel (·.heartbeat.message) fun _ _ => rfl,
      syncOverride_stores.kept hsync (·.heartbeat.message) fun _ _ => rfl,
      verifyOverride_stores.kept hverify (·.heartbeat.message) fun _ _ => rfl,
      intervalOverride_stores.kept hinterval (·.heartbeat.message) fun _ _ => rfl]

end BlockProbe.Settings
