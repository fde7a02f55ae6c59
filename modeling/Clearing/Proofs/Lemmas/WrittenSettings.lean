import Clearing.Proofs.Lemmas.Backoff
import Clearing.Proofs.Lemmas.WrittenRecords
import Clearing.Settings

/-!
# Settings that are written and read again

Settings are read from JSON and from YAML. From either, they are read again from the JSON that is written of them, in
any format in which JSON values can be given; sections and fields that were left out are written with their defaults.
-/

namespace Clearing

open Document

variable {δ ε : Type} [Document δ] [Document ε] [Hosts ε]

/-! ## How a task is delivered -/

namespace TaskOptions

instance : HasAmounts TaskOptions := .without

theorem nodup_fieldNames : fieldNames.Nodup := by decide

theorem read?_hosted [Bounded δ] :
    ReadsAgain (read? : δ → Option TaskOptions) fun v => read? (Hosts.ofJson v : ε) := by
  intro v o h
  simp only [read?, Option.bind_eq_bind, Option.bind_eq_some_iff, Option.some.injEq] at h
  obtain ⟨ms, -, maxRetry, hmaxRetry, n, hn, queue, hqueue, rfl⟩ := h
  have hdelay : (Duration.ofSeconds n).seconds = n := by
    obtain ⟨w, -, hw⟩ := Option.bind_eq_some_iff.mp hn
    exact Duration.seconds_ofSeconds (nat64?_lt hw)
  have hwritten : Hosts.ofJson (json (Duration.ofSeconds n).seconds) = (Hosts.ofJson (json n) : ε) := by rw [hdelay]
  exact members?_bind nodup_fieldNames <| field?_bind Hosts.ofJson hmaxRetry int32?_hosted rfl <|
    field?_bind Hosts.ofJson hn (natural?_hosted _) (congrArg some hwritten) <|
    field?_bind Hosts.ofJson hqueue text?_hosted rfl rfl

theorem read?_again [Bounded δ] : ReadsAgain (read? : δ → Option TaskOptions) (read? : Json → Option TaskOptions) :=
  read?_hosted

instance : Rereads TaskOptions := ⟨read?_again⟩

end TaskOptions

/-! ## Sections -/

instance : Named.Lawful SizingPolicy := ⟨fun x => by cases x <;> decide +kernel⟩

namespace Settings

instance : HasAmounts Postgres := .without
instance : HasAmounts Redis := .without
instance : HasAmounts Outbox := .without
instance : HasAmounts Rules := .without
instance : HasAmounts Settings := .without

theorem Postgres.nodup_fieldNames : Postgres.fieldNames.Nodup := by decide

theorem Postgres.read?_hosted [Bounded δ] :
    ReadsAgain (read? : δ → Option Postgres) fun v => read? (Hosts.ofJson v : ε) := by
  intro v s h
  simp only [read?, Option.bind_eq_bind, Option.bind_eq_some_iff, Option.some.injEq] at h
  obtain ⟨ms, -, url, hurl, maxConnections, hmaxConnections, acquireTimeoutSecs, hacquireTimeoutSecs, initSchema,
    hinitSchema, rfl⟩ := h
  exact members?_bind Postgres.nodup_fieldNames <|
    fieldOr?_bind Hosts.ofJson hurl text?_hosted (Hosts.text?_ofJson _) rfl <|
    fieldOr?_bind Hosts.ofJson hmaxConnections (natural?_hosted _) (natural?_ofJson (by decide)) rfl <|
    fieldOr?_bind Hosts.ofJson hacquireTimeoutSecs (natural?_hosted _) (natural?_ofJson (by decide)) rfl <|
    fieldOr?_bind Hosts.ofJson hinitSchema flag?_hosted (Hosts.flag?_ofJson _) rfl rfl

theorem Redis.nodup_fieldNames : Redis.fieldNames.Nodup := by decide

theorem Redis.read?_hosted : ReadsAgain (read? : δ → Option Redis) fun v => read? (Hosts.ofJson v : ε) := by
  intro v s h
  simp only [read?, Option.bind_eq_bind, Option.bind_eq_some_iff, Option.some.injEq] at h
  obtain ⟨ms, -, url, hurl, streamPrefix, hstreamPrefix, rfl⟩ := h
  exact members?_bind Redis.nodup_fieldNames <|
    fieldOr?_bind Hosts.ofJson hurl text?_hosted (Hosts.text?_ofJson _) rfl <|
    fieldOr?_bind Hosts.ofJson hstreamPrefix text?_hosted (Hosts.text?_ofJson _) rfl rfl

theorem Outbox.nodup_fieldNames : Outbox.fieldNames.Nodup := by decide

theorem Outbox.read?_hosted [Bounded δ] :
    ReadsAgain (read? : δ → Option Outbox) fun v => read? (Hosts.ofJson v : ε) := by
  intro v s h
  simp only [read?, Option.bind_eq_bind, Option.bind_eq_some_iff, Option.some.injEq] at h
  obtain ⟨ms, -, enabled, henabled, pollIntervalMs, hpollIntervalMs, batchSize, hbatchSize, maxAttempts,
    hmaxAttempts, rfl⟩ := h
  exact members?_bind Outbox.nodup_fieldNames <|
    fieldOr?_bind Hosts.ofJson henabled flag?_hosted (Hosts.flag?_ofJson _) rfl <|
    fieldOr?_bind Hosts.ofJson hpollIntervalMs (natural?_hosted _) (natural?_ofJson (by decide)) rfl <|
    fieldOr?_bind Hosts.ofJson hbatchSize (integer?_hosted _ _) (Hosts.integer?_ofJson (by decide) (by decide)) rfl <|
    fieldOr?_bind Hosts.ofJson hmaxAttempts int32?_hosted (int32?_ofJson _) rfl rfl

theorem Rules.nodup_fieldNames : Rules.fieldNames.Nodup := by decide

theorem Rules.read?_hosted : ReadsAgain (read? : δ → Option Rules) fun v => read? (Hosts.ofJson v : ε) := by
  intro v s h
  simp only [read?, Option.bind_eq_bind, Option.bind_eq_some_iff, Option.some.injEq] at h
  obtain ⟨ms, -, withdrawalSizing, hwithdrawalSizing, rfl⟩ := h
  exact members?_bind Rules.nodup_fieldNames <|
    fieldOr?_bind Hosts.ofJson hwithdrawalSizing named?_hosted (named?_ofJson _) rfl rfl

/-! ## The whole -/

theorem nodup_fieldNames : fieldNames.Nodup := by decide

theorem read?_hosted [Bounded δ] : ReadsAgain (read? : δ → Option Settings) fun v => read? (Hosts.ofJson v : ε) := by
  intro v s h
  simp only [read?, Option.bind_eq_bind, Option.bind_eq_some_iff, Option.some.injEq] at h
  obtain ⟨ms, -, logLevel, hlogLevel, logDir, hlogDir, logFile, hlogFile, useJson, huseJson, rotation, hrotation,
    postgres, hpostgres, redis, hredis, outbox, houtbox, verifyEmailTask, hverifyEmailTask, settlement, hsettlement,
    rfl⟩ := h
  -- a section that was left out is written with its defaults, which JSON reads as the section
  have hnoRedis := Redis.read?_hosted (ε := ε) (rfl : Redis.read? (json ({} : Redis)) = some {})
  have hnoOutbox := Outbox.read?_hosted (ε := ε) (rfl : Outbox.read? (json ({} : Outbox)) = some {})
  have hnoTask := TaskOptions.read?_hosted (ε := ε) (rfl : TaskOptions.read? (json ({} : TaskOptions)) = some {})
  have hnoRules := Rules.read?_hosted (ε := ε) (rfl : Rules.read? (json ({} : Rules)) = some {})
  exact members?_bind nodup_fieldNames <| field?_bind Hosts.ofJson hlogLevel text?_hosted rfl <|
    field?_bind Hosts.ofJson hlogDir text?_hosted rfl <| field?_bind Hosts.ofJson hlogFile text?_hosted rfl <|
    field?_bind Hosts.ofJson huseJson flag?_hosted rfl <| field?_bind Hosts.ofJson hrotation text?_hosted rfl <|
    field?_bind Hosts.ofJson hpostgres Postgres.read?_hosted rfl <|
    fieldOr?_bind Hosts.ofJson hredis Redis.read?_hosted hnoRedis rfl <|
    fieldOr?_bind Hosts.ofJson houtbox Outbox.read?_hosted hnoOutbox rfl <|
    fieldOr?_bind Hosts.ofJson hverifyEmailTask TaskOptions.read?_hosted hnoTask rfl <|
    fieldOr?_bind Hosts.ofJson hsettlement Rules.read?_hosted hnoRules rfl rfl

theorem read?_again [Bounded δ] : ReadsAgain (read? : δ → Option Settings) (read? : Json → Option Settings) :=
  read?_hosted

instance : Rereads Settings := ⟨read?_again⟩

end Settings
end Clearing
