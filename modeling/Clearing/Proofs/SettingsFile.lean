import Clearing.Proofs.Lemmas.WrittenSettings
import Clearing.Proofs.Lemmas.YamlText

/-!
# Settings written to a file

The JSON that is written of settings is a text of YAML, and as such it is read as the settings again: whatever file
they came from, they can be written to a new one. Only their texts have to be of characters that YAML accepts in
quotes.
-/

namespace Clearing

/-! ## JSON values as documents in YAML -/

namespace Yaml

theorem natural?_decimal (n : Nat) : natural? (Digits.decimal n) = some n := by
  rcases Nat.eq_zero_or_pos n with rfl | hpos
  · rfl
  · obtain ⟨c, ds, hds, hc⟩ := Digits.exists_head_decimal hpos
    have hprefix {d : Char} {rest : List Char} (heq : Digits.decimal n = '0' :: d :: rest) : False :=
      hc (List.cons.inj (hds.symm.trans heq)).1
    rw [natural?.eq_5 _ (fun _ => hprefix) (fun _ => hprefix) (fun _ => hprefix) (fun _ _ => hprefix),
      Digits.readNat?_decimal]

theorem integer?_decimal (n : Nat) : integer? (Digits.decimal n) = some (n : Int) := by
  obtain ⟨c, ds, hds, hdigit⟩ := Digits.exists_digit_decimal n
  have hsign {d : Char} {rest : List Char} (hd : d.isDigit = false) (heq : Digits.decimal n = d :: rest) : False := by
    rw [(List.cons.inj (hds.symm.trans heq)).1, hd] at hdigit
    cases hdigit
  rw [integer?.eq_3 _ (fun _ => hsign rfl) (fun _ => hsign rfl), natural?_decimal]
  rfl

theorem integer?_toString (n : Int) : integer? (toString n).toList = some n := by
  rw [Json.NumberToken.toList_toString]
  split
  · next hneg =>
      have hsigned : -(n.natAbs : Int) = n := by omega
      rw [integer?, natural?_decimal]
      exact congrArg some hsigned
  · next hneg => rw [integer?_decimal, Int.natAbs_of_nonneg (Int.not_lt.mp hneg)]

theorem head?_toString {n : Int} (h : 0 ≤ n) : (toString n).toList.head? ≠ some '-' := by
  obtain ⟨c, cs, hcs, hdigit⟩ := Digits.exists_digit_decimal n.natAbs
  rw [Json.NumberToken.toList_toString, if_neg (Int.not_lt.mpr h), hcs]
  rintro heq
  cases Option.some.inj heq
  cases hdigit

theorem intIn?_ofJson {least greatest n : Int} (hleast : least ≤ n) (hgreatest : n ≤ greatest) :
    intIn? least greatest (ofJson (.int n)) = some n := by
  have htext : typed? (.common "int") (ofJson (.int n)) = some (toString n) := rfl
  have hsign : ¬ (0 ≤ least ∧ (toString n).toList.head? = some '-') :=
    fun h => head?_toString (Int.le_trans h.1 hleast) h.2
  simp only [intIn?, htext, Option.bind_eq_bind, Option.bind_some, integer?_toString, if_neg hsign,
    if_pos (And.intro hleast hgreatest)]

theorem entries?_ofJson (ms : List (String × Json)) :
    entries? (ofJson (.object ms)) = some (ms.map fun m => (m.1, ofJson m.2)) := by
  show (Node.ofMembers ms).mapM (fun m => (text? { root := m.1, anchored := [] }).map fun name =>
    (name, ({ root := m.2, anchored := [] } : Yaml))) = _
  induction ms with
  | nil => rfl
  | cons m ms ih =>
      rw [Node.ofMembers, List.mapM_cons, ih]
      rfl

theorem members?_ofJson {names : List String} {required : Nat} {ms : List (String × Json)}
    (h : (ms.map (·.1)).Nodup) :
    members? names required (ofJson (.object ms)) = some (ms.map fun m => (m.1, ofJson m.2)) := by
  have hunique (name : String) : ((ms.map fun m => (m.1, ofJson m.2)).filter (·.1 == name)).length ≤ 1 := by
    have hcount := List.nodup_iff_count_le_one.mp h name
    rw [List.count_eq_countP, List.countP_map] at hcount
    rw [List.filter_map, List.length_map, ← List.countP_eq_length_filter]
    exact hcount
  rw [members?, entries?_ofJson]
  simp [hunique]

end Yaml

instance : Document.Hosts Yaml where
  ofJson := Yaml.ofJson
  text?_ofJson _ := rfl
  flag?_ofJson b := by cases b <;> rfl
  integer?_ofJson := Yaml.intIn?_ofJson
  label?_ofJson _ := rfl
  members?_ofJson := Yaml.members?_ofJson

/-! ## Settings -/

namespace Settings

/-- The texts in settings that can be any text. -/
def texts (s : Settings) : List String :=
  [s.logLevel, s.logDir, s.logFile, s.rotation, s.postgres.url, s.redis.url, s.redis.streamPrefix,
   s.verifyEmailTask.queue]

theorem shared_json {s : Settings} (h : ∀ text ∈ s.texts, Yaml.Quotable text) : Yaml.Shared (json s) := by
  simp only [texts, List.forall_mem_cons] at h
  obtain ⟨hlogLevel, hlogDir, hlogFile, hrotation, hpostgres, hredis, hprefix, hqueue, -⟩ := h
  have hsizing : Yaml.Quotable (Named.name s.settlement.withdrawalSizing) := by
    cases s.settlement.withdrawalSizing <;> decide
  have hpostgres : Yaml.Shared (json s.postgres) :=
    ⟨by decide, hpostgres, by decide, trivial, by decide, trivial, by decide, trivial, trivial⟩
  have hredis : Yaml.Shared (json s.redis) := ⟨by decide, hredis, by decide, hprefix, trivial⟩
  have houtbox : Yaml.Shared (json s.outbox) :=
    ⟨by decide, trivial, by decide, trivial, by decide, trivial, by decide, trivial, trivial⟩
  have htask : Yaml.Shared (json s.verifyEmailTask) :=
    ⟨by decide, trivial, by decide, trivial, by decide, hqueue, trivial⟩
  have hrules : Yaml.Shared (json s.settlement) := ⟨by decide, hsizing, trivial⟩
  exact ⟨by decide, hlogLevel, by decide, hlogDir, by decide, hlogFile, by decide, trivial, by decide, hrotation,
    by decide, hpostgres, by decide, hredis, by decide, houtbox, by decide, htask, by decide, hrules, trivial⟩

/-- Settings that were read from a file are read again, as they are, from a file with the JSON that is written of
them. -/
theorem ofYaml_compact {text : String} {s : Settings} (h : ofYaml text = .ok s)
    (htexts : ∀ text ∈ s.texts, Yaml.Quotable text) : ofYaml (json s).compact = .ok s := by
  have hwritten : Yaml.ofText? (json s).compact = some (Yaml.ofJson (json s)) :=
    Yaml.ofText?_compact (shared_json htexts)
  rw [ofYaml] at h
  split at h
  · cases h
  · next s' hread =>
      obtain ⟨y, -, hy⟩ := Option.bind_eq_some_iff.mp hread
      split at h
      · cases h
      · next hbatch =>
          split at h
          · cases h
          · next hattempts =>
              obtain rfl : s' = s := Except.ok.inj h
              have hagain : read? (Yaml.ofJson (json s')) = some s' := read?_hosted hy
              rw [ofYaml, hwritten, Option.bind_some, hagain]
              simp only [if_neg hbatch, if_neg hattempts]

end Settings
end Clearing
