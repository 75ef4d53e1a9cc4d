import IngressControl.Settings.Source
import Mathlib.Data.List.Nodup

/-!
# Which rules settings violate

The violations of settings are told by what each rule asks for. A rule is reported once, in its place and
with its own text, just when it is not kept, and settings count just when all eleven rules are kept.

Rules do not interfere. Each setting is read by one rule at most, and a rule depends on what it reads and on
nothing else, so a change to one setting leaves the reports of all other rules where they stand.

All this holds whatever counts as a URL and as a socket address.
-/

namespace IngressControl

namespace Rule

/-- What a rule asks of settings. -/
def Kept (readers : AddressReaders) (s : Settings) : Rule → Prop
  | absoluteConfigFile => ∃ rest, s.files.configFile.toList = '/' :: rest
  | someSslDirectory => s.files.sslDirectory ≠ ""
  | positiveCommandTimeout => 0 < s.proxy.commandTimeout
  | positiveControlTimeout => 0 < s.proxy.controlTimeout
  | webControlEndpoint =>
    ∃ u, readers.url s.proxy.controlEndpoint = .ok u ∧ (u.scheme = "http" ∨ u.scheme = "https")
  | growingRetryDelay => s.retry.factor.isFinite ∧ 1.0 ≤ s.retry.factor
  | boundedRetryJitter => 0.0 ≤ s.retry.jitter ∧ s.retry.jitter ≤ 1.0
  | someDefaultHttpPort => s.listen.defaultHttp ≠ 0
  | knownLogFormat => s.observation.logFormat = "pretty" ∨ s.observation.logFormat = "json"
  | metricsSocketAddress => s.observation.metricsEnabled →
    ∃ a, readers.socketAddress s.observation.metricsAddress = some a
  | adminSocketAddress => s.admin.enabled → ∃ a, readers.socketAddress s.admin.bindAddress = some a

variable {readers : AddressReaders} {s s' : Settings} {rule : Rule}

theorem demand_eq_none {condition : Bool} {complaint : String} :
    demand condition complaint = none ↔ condition = true := by
  cases condition <;> simp [demand]

theorem isAbsolute_iff {path : String} :
    Path.isAbsolute path = true ↔ ∃ rest, path.toList = '/' :: rest := by
  rw [Path.isAbsolute, decide_eq_true_iff, List.head?_eq_some_iff]

theorem endpointComplaint?_eq_none {endpoint : String} :
    endpointComplaint? readers endpoint = none ↔
      ∃ u, readers.url endpoint = .ok u ∧ (u.scheme = "http" ∨ u.scheme = "https") := by
  unfold endpointComplaint?
  cases readers.url endpoint with
  | error e => simp
  | ok u => simp [demand_eq_none]

/-- A switch that is on asks for an address. -/
theorem switched_address_iff {enabled : Bool} {address : String} :
    (!enabled || (readers.socketAddress address).isSome) = true ↔
      (enabled → ∃ a, readers.socketAddress address = some a) := by
  rw [← Option.isSome_iff_exists]
  cases enabled <;> simp

/-- **A rule has nothing to complain about just when it is kept.** -/
theorem complaint?_eq_none : rule.complaint? readers s = none ↔ rule.Kept readers s := by
  cases rule with
  | absoluteConfigFile => exact demand_eq_none.trans isAbsolute_iff
  | someSslDirectory => simp [complaint?, Kept, demand_eq_none]
  | positiveCommandTimeout => simp [complaint?, Kept, demand_eq_none, UInt64.pos_iff_ne_zero]
  | positiveControlTimeout => simp [complaint?, Kept, demand_eq_none, UInt64.pos_iff_ne_zero]
  | webControlEndpoint => exact endpointComplaint?_eq_none
  | growingRetryDelay => simp [complaint?, Kept, demand_eq_none]
  | boundedRetryJitter => simp [complaint?, Kept, demand_eq_none]
  | someDefaultHttpPort => simp [complaint?, Kept, demand_eq_none]
  | knownLogFormat => simp [complaint?, Kept, demand_eq_none]
  | metricsSocketAddress => exact demand_eq_none.trans switched_address_iff
  | adminSocketAddress => exact demand_eq_none.trans switched_address_iff

instance : Decidable (rule.Kept readers s) := decidable_of_iff _ complaint?_eq_none

theorem mem_all : rule ∈ all := by
  cases rule <;> decide

theorem nodup_all : all.Nodup := by
  decide

theorem field_injective {rule' : Rule} (same : rule.field = rule'.field) : rule = rule' := by
  revert same
  cases rule <;> cases rule' <;> decide

/-- Nothing that is no number compares with another. -/
theorem isNaN_of_le {a b : Float} (le : a ≤ b) : a.isNaN = false := by
  have compared : (a.toModel.unpack.compare b.toModel.unpack).any (·.isLE) = true :=
    of_decide_eq_true le
  change a.toModel.unpack.isNaN = false
  cases kind : a.toModel.unpack with
  | notANumber =>
    rw [kind] at compared
    exact absurd compared Bool.false_ne_true
  | infinity | zero | finite => rfl

end Rule

/-- The single settings of the controller. -/
inductive Setting where
  | configFile
  | sslDirectory
  | binary
  | commandTimeout
  | controlEndpoint
  | controlTimeout
  | retries
  | initialDelay
  | retryFactor
  | retryJitter
  | firstSyncDelay
  | defaultHttpPort
  | statusPort
  | logLevel
  | logFormat
  | metricsEnabled
  | metricsAddress
  | metricsIdleTimeout
  | snapshotFile
  | adminEnabled
  | adminAddress
deriving DecidableEq

namespace Setting

/-- What a setting can be. -/
def Value : Setting → Type
  | configFile | sslDirectory | binary | controlEndpoint | logLevel | logFormat | metricsAddress
  | snapshotFile | adminAddress => String
  | commandTimeout | controlTimeout | initialDelay | firstSyncDelay | metricsIdleTimeout => UInt64
  | retries => UInt32
  | retryFactor | retryJitter => Float
  | defaultHttpPort | statusPort => UInt16
  | metricsEnabled | adminEnabled => Bool

/-- The rule that reads a setting, if there is one. -/
def reader? : Setting → Option Rule
  | configFile => some .absoluteConfigFile
  | sslDirectory => some .someSslDirectory
  | commandTimeout => some .positiveCommandTimeout
  | controlTimeout => some .positiveControlTimeout
  | controlEndpoint => some .webControlEndpoint
  | retryFactor => some .growingRetryDelay
  | retryJitter => some .boundedRetryJitter
  | defaultHttpPort => some .someDefaultHttpPort
  | logFormat => some .knownLogFormat
  | metricsEnabled | metricsAddress => some .metricsSocketAddress
  | adminEnabled | adminAddress => some .adminSocketAddress
  | binary | retries | initialDelay | firstSyncDelay | statusPort | logLevel | metricsIdleTimeout
  | snapshotFile => none

end Setting

namespace Settings

/-- The value of a setting. -/
def get (s : Settings) : (k : Setting) → k.Value
  | .configFile => s.files.configFile
  | .sslDirectory => s.files.sslDirectory
  | .binary => s.proxy.binary
  | .commandTimeout => s.proxy.commandTimeout
  | .controlEndpoint => s.proxy.controlEndpoint
  | .controlTimeout => s.proxy.controlTimeout
  | .retries => s.retry.retries
  | .initialDelay => s.retry.initialDelay
  | .retryFactor => s.retry.factor
  | .retryJitter => s.retry.jitter
  | .firstSyncDelay => s.retry.firstSyncDelay
  | .defaultHttpPort => s.listen.defaultHttp
  | .statusPort => s.listen.status
  | .logLevel => s.observation.logLevel
  | .logFormat => s.observation.logFormat
  | .metricsEnabled => s.observation.metricsEnabled
  | .metricsAddress => s.observation.metricsAddress
  | .metricsIdleTimeout => s.observation.metricsIdleTimeout
  | .snapshotFile => s.source.snapshotFile
  | .adminEnabled => s.admin.enabled
  | .adminAddress => s.admin.bindAddress

/-- Settings that differ in one setting at most. -/
def ApartFrom (k : Setting) (s s' : Settings) : Prop := ∀ other, other ≠ k → s'.get other = s.get other

variable {readers : AddressReaders} {s s' : Settings} {rule : Rule} {k : Setting}

/-- There are no other settings. -/
theorem eq_of_get (same : ∀ k, s'.get k = s.get k) : s' = s := by
  obtain ⟨⟨_, _⟩, ⟨_, _, _, _⟩, ⟨_, _, _, _, _⟩, ⟨_, _⟩, ⟨_, _, _, _, _⟩, ⟨_⟩, ⟨_, _⟩⟩ := s
  obtain ⟨⟨_, _⟩, ⟨_, _, _, _⟩, ⟨_, _, _, _, _⟩, ⟨_, _⟩, ⟨_, _, _, _, _⟩, ⟨_⟩, ⟨_, _⟩⟩ := s'
  cases same .configFile
  cases same .sslDirectory
  cases same .binary
  cases same .commandTimeout
  cases same .controlEndpoint
  cases same .controlTimeout
  cases same .retries
  cases same .initialDelay
  cases same .retryFactor
  cases same .retryJitter
  cases same .firstSyncDelay
  cases same .defaultHttpPort
  cases same .statusPort
  cases same .logLevel
  cases same .logFormat
  cases same .metricsEnabled
  cases same .metricsAddress
  cases same .metricsIdleTimeout
  cases same .snapshotFile
  cases same .adminEnabled
  cases same .adminAddress
  rfl

end Settings

namespace Rule

variable {readers : AddressReaders} {s s' : Settings} {rule : Rule} {k : Setting}

/-- **A rule depends on the settings that it reads, and on nothing else.** -/
theorem complaint?_congr (same : ∀ k : Setting, k.reader? = some rule → s'.get k = s.get k) :
    rule.complaint? readers s' = rule.complaint? readers s := by
  cases rule with
  | absoluteConfigFile =>
    have path : s'.files.configFile = s.files.configFile := same .configFile rfl
    rw [complaint?, complaint?, path]
  | someSslDirectory =>
    have path : s'.files.sslDirectory = s.files.sslDirectory := same .sslDirectory rfl
    rw [complaint?, complaint?, path]
  | positiveCommandTimeout =>
    have timeout : s'.proxy.commandTimeout = s.proxy.commandTimeout := same .commandTimeout rfl
    rw [complaint?, complaint?, timeout]
  | positiveControlTimeout =>
    have timeout : s'.proxy.controlTimeout = s.proxy.controlTimeout := same .controlTimeout rfl
    rw [complaint?, complaint?, timeout]
  | webControlEndpoint =>
    have url : s'.proxy.controlEndpoint = s.proxy.controlEndpoint := same .controlEndpoint rfl
    rw [complaint?, complaint?, url]
  | growingRetryDelay =>
    have factor : s'.retry.factor = s.retry.factor := same .retryFactor rfl
    rw [complaint?, complaint?, factor]
  | boundedRetryJitter =>
    have jitter : s'.retry.jitter = s.retry.jitter := same .retryJitter rfl
    rw [complaint?, complaint?, jitter]
  | someDefaultHttpPort =>
    have port : s'.listen.defaultHttp = s.listen.defaultHttp := same .defaultHttpPort rfl
    rw [complaint?, complaint?, port]
  | knownLogFormat =>
    have format : s'.observation.logFormat = s.observation.logFormat := same .logFormat rfl
    rw [complaint?, complaint?, format]
  | metricsSocketAddress =>
    have enabled : s'.observation.metricsEnabled = s.observation.metricsEnabled :=
      same .metricsEnabled rfl
    have address : s'.observation.metricsAddress = s.observation.metricsAddress :=
      same .metricsAddress rfl
    rw [complaint?, complaint?, enabled, address]
  | adminSocketAddress =>
    have enabled : s'.admin.enabled = s.admin.enabled := same .adminEnabled rfl
    have address : s'.admin.bindAddress = s.admin.bindAddress := same .adminAddress rfl
    rw [complaint?, complaint?, enabled, address]

end Rule

namespace Settings

variable {readers : AddressReaders} {s s' : Settings} {rule : Rule} {k : Setting}

/-- What is reported of a rule, if it is violated. -/
def report? (s : Settings) (readers : AddressReaders) (rule : Rule) : Option Violation :=
  (rule.complaint? readers s).map fun complaint => ⟨rule, complaint⟩

theorem violations_eq : s.violations readers = Rule.all.filterMap (s.report? readers) := rfl

theorem report?_eq_none : s.report? readers rule = none ↔ rule.Kept readers s := by
  rw [report?, Option.map_eq_none_iff, Rule.complaint?_eq_none]

theorem rule_of_report {v : Violation} (reported : s.report? readers rule = some v) : v.rule = rule := by
  obtain ⟨complaint, _, rfl⟩ := Option.map_eq_some_iff.mp reported
  rfl

theorem violations_eq_nil : s.violations readers = [] ↔ ∀ rule, Rule.Kept readers s rule := by
  rw [violations_eq, List.filterMap_eq_nil_iff]
  constructor
  · intro none rule
    exact report?_eq_none.mp (none rule Rule.mem_all)
  · intro kept rule _
    exact report?_eq_none.mpr (kept rule)

/-- Settings that are read from a text keep all rules. -/
theorem kept_of_parse {content : String} (parsed : parse content = .ok s) :
    rule.Kept .standard s := by
  unfold parse at parsed
  split at parsed
  · cases parsed
  · split at parsed
    · cases parsed
    · split at parsed
      case isTrue none =>
        cases parsed
        exact violations_eq_nil.mp none rule
      case isFalse => cases parsed

/-- The rules that are reported are those that are violated, in the order of all rules. -/
theorem rules_violations :
    (s.violations readers).map (·.rule) = Rule.all.filter fun rule => ¬rule.Kept readers s := by
  rw [violations_eq, List.map_filterMap, ← List.filterMap_eq_filter]
  refine List.filterMap_congr fun rule _ => ?_
  by_cases kept : rule.Kept readers s
  · rw [report?_eq_none.mpr kept, Option.guard, if_neg (by simpa using kept)]
    rfl
  · obtain ⟨v, reported⟩ := Option.ne_none_iff_exists'.mp (mt report?_eq_none.mp kept)
    rw [reported, Option.guard, if_pos (by simpa using kept), Option.map_some, rule_of_report reported]

theorem report?_congr (apart : s.ApartFrom k s') (unread : k.reader? ≠ some rule) :
    s'.report? readers rule = s.report? readers rule := by
  have same : rule.complaint? readers s' = rule.complaint? readers s := by
    refine Rule.complaint?_congr fun other reads => apart other ?_
    rintro rfl
    exact unread reads
  rw [report?, report?, same]

/-- Rules none of which reads the setting that differs report the same. -/
theorem reports_congr (apart : s.ApartFrom k s') {rules : List Rule}
    (unread : ∀ rule ∈ rules, k.reader? ≠ some rule) :
    rules.filterMap (s'.report? readers) = rules.filterMap (s.report? readers) :=
  List.filterMap_congr fun rule there => report?_congr apart (unread rule there)

/-- What is reported of a rule stands between what is reported of those before and of those after it. -/
theorem reports_split {before after : List Rule} :
    (before ++ rule :: after).filterMap (s.report? readers) =
      before.filterMap (s.report? readers) ++ (s.report? readers rule).toList ++
        after.filterMap (s.report? readers) := by
  rw [List.filterMap_append, List.append_assoc, List.filterMap_cons]
  cases s.report? readers rule <;> rfl

theorem rule_of_mem_report {v : Violation} (there : v ∈ (s.report? readers rule).toList) :
    v.rule = rule :=
  rule_of_report (Option.mem_toList.mp there)

/-- A change to one setting shows in the report of the rule that reads it, and all other reports stay where
they are. -/
theorem violations_beside (apart : s.ApartFrom k s') : ∃ front here here' behind,
    s.violations readers = front ++ here ++ behind ∧
      s'.violations readers = front ++ here' ++ behind ∧
      ∀ v ∈ here ++ here', k.reader? = some v.rule := by
  cases reads : k.reader? with
  | none =>
    have same : s'.violations readers = s.violations readers := by
      refine reports_congr apart fun rule _ => ?_
      rw [reads]
      exact (Option.some_ne_none rule).symm
    exact ⟨s.violations readers, [], [], [], by simp, by simp [same], by simp⟩
  | some reader =>
    obtain ⟨before, after, split⟩ := List.append_of_mem (Rule.mem_all : reader ∈ Rule.all)
    have once : reader ∉ before ++ after := by
      have nodup : (before ++ reader :: after).Nodup := split ▸ Rule.nodup_all
      exact (List.nodup_middle.mp nodup).notMem
    have unread : ∀ rule ∈ before ++ after, k.reader? ≠ some rule := by
      intro rule there read
      rw [reads, Option.some.injEq] at read
      exact once (read ▸ there)
    have front : before.filterMap (s'.report? readers) = before.filterMap (s.report? readers) :=
      reports_congr apart fun rule there => unread rule (List.mem_append_left after there)
    have behind : after.filterMap (s'.report? readers) = after.filterMap (s.report? readers) :=
      reports_congr apart fun rule there => unread rule (List.mem_append_right before there)
    refine ⟨before.filterMap (s.report? readers), (s.report? readers reader).toList,
      (s'.report? readers reader).toList, after.filterMap (s.report? readers), ?_, ?_, ?_⟩
    · rw [violations_eq, split, reports_split]
    · rw [violations_eq, split, reports_split, front, behind]
    · intro v there
      obtain there | there := List.mem_append.mp there
      · rw [rule_of_mem_report there]
      · rw [rule_of_mem_report there]

/-- **Every violated rule is reported once, and for itself**, whatever reads the addresses. Nothing is
reported just when all rules are kept. What is reported are the fields of the rules that are not kept, in
the order of all rules and each once; a jitter within its bounds is a number. And where settings differ in
one of them, the reports of all rules that do not read it stand where they stood, with the same texts. -/
theorem violations_exact (readers : AddressReaders) (s : Settings) :
    (s.violations readers = [] ↔ ∀ rule, Rule.Kept readers s rule) ∧
      (s.violations readers).map (·.rule.field) =
        (Rule.all.filter fun rule => ¬rule.Kept readers s).map Rule.field ∧
      ((s.violations readers).map (·.rule.field)).Nodup ∧
      (Rule.boundedRetryJitter.Kept readers s → s.retry.jitter.isNaN = false) ∧
      ∀ (k : Setting) (s' : Settings), s.ApartFrom k s' → ∃ front here here' behind,
        s.violations readers = front ++ here ++ behind ∧
          s'.violations readers = front ++ here' ++ behind ∧
          ∀ v ∈ here ++ here', k.reader? = some v.rule := by
  have fields : (s.violations readers).map (·.rule.field) =
      (Rule.all.filter fun rule => ¬rule.Kept readers s).map Rule.field := by
    rw [← rules_violations, List.map_map]
    rfl
  refine ⟨violations_eq_nil, fields, ?_, ?_, ?_⟩
  · rw [fields]
    exact (Rule.nodup_all.filter _).map fun _ _ => Rule.field_injective
  · rintro ⟨_, atMost⟩
    exact Rule.isNaN_of_le atMost
  · intro k s' apart
    exact violations_beside apart

/-- Settings with a relative path, a URL of another scheme, no port and an unknown log format. -/
def broken : Settings where
  files := { configFile := "relative/nginx.conf" }
  proxy := { controlEndpoint := "unix:///run/nginx.sock" }
  listen := { defaultHttp := 0 }
  observation := { logFormat := "xml" }

/-- The same with a port. -/
def mended : Settings := { broken with listen := {} }

theorem broken_apartFrom_mended : broken.ApartFrom .defaultHttpPort mended := by
  intro other differs
  cases other with
  | defaultHttpPort => exact absurd rfl differs
  | _ => rfl

/-- Four rules are violated; with a port, the other three are. -/
theorem broken_violations :
    (broken.violations .standard).map (·.rule.field) =
      ["paths.config_file", "proxy.control_endpoint", "listen.default_http_port",
        "observability.log_format"] ∧
    broken.retry.jitter.isNaN = false ∧
    (mended.violations .standard).map (·.rule.field) =
      ["paths.config_file", "proxy.control_endpoint", "observability.log_format"] ∧
    ∃ front here here' behind,
      broken.violations .standard = front ++ here ++ behind ∧
        mended.violations .standard = front ++ here' ++ behind ∧
        ∀ v ∈ here ++ here', v.rule = .someDefaultHttpPort := by
  obtain ⟨_, fields, _, number, beside⟩ := violations_exact .standard broken
  refine ⟨?_, number (by decide +kernel), ?_, ?_⟩
  · rw [fields]
    decide +kernel
  · decide +kernel
  · obtain ⟨front, here, here', behind, split, split', reads⟩ :=
      beside .defaultHttpPort mended broken_apartFrom_mended
    refine ⟨front, here, here', behind, split, split', fun v there => ?_⟩
    exact (Option.some.inj (reads v there)).symm

end Settings

end IngressControl
