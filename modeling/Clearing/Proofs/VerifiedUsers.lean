import Clearing.Proofs.Constraints
import Clearing.Proofs.History

/-!
# Verified users

A verification is used up by the one call that presents its code in time, and that call marks a user of its name.
Nothing else uses a verification up or marks a user, and neither is ever undone. Where no two users share a name, the
verified users are those whose name a used verification carries.
-/

namespace Clearing

variable {κ : Type}

/-! ## Codes that are accepted -/

/-- A call that returns a code and is accepted. -/
structure Redemption where
  id : Int
  code : String
  time : Instant

/-- A call has presented the code of a verification before it expired. -/
structure Redemption.Redeems (c : Redemption) (v : Verification) : Prop where
  id : c.id = v.id
  code : c.code = v.secretCode
  inTime : c.time.before v.expiredAt = true

theorem Verification.usable_iff {v : Verification} {code : String} {now : Instant} :
    v.isUsableWith code now = true ↔ v.secretCode = code ∧ v.isUsed = false ∧ now.before v.expiredAt = true := by
  simp [isUsableWith, and_assoc]

namespace Action

/-- Whether an action brings a user into being. -/
def enrols : Action κ → Bool
  | .seedUser .. | .perform _ (.registerUser _) => true
  | _ => false

/-- A user who comes into being has an identifier that no user has. -/
def IdentifiesUser (w : World MemoryStore κ) (a : Action κ) : Prop :=
  a.enrols = true → ∀ u ∈ w.store.committed.users.rows, u.id ≠ w.store.ids.next

instance (w : World MemoryStore κ) (a : Action κ) : Decidable (a.IdentifiesUser w) :=
  inferInstanceAs (Decidable (a.enrols = true → ∀ u ∈ w.store.committed.users.rows, u.id ≠ w.store.ids.next))

/-- The name of a user who is seeded. -/
def seededName? : Action κ → Option String
  | .seedUser username _ => some username
  | _ => none

/-- A user who is seeded has a name that no user has. -/
def NamesUser (w : World MemoryStore κ) : Action κ → Prop
  | .seedUser username _ => ∀ u ∈ w.store.committed.users.rows, u.username ≠ username
  | _ => True

/-- The codes that an action returns and that are accepted. -/
def redemptions [Courier κ] (w : World MemoryStore κ) : Action κ → List Redemption
  | .perform s (.verifyEmail id code) =>
    match (s.perform (.verifyEmail id code) w).1 with
    | .ok _ => [⟨id, code, w.store.now⟩]
    | .error _ => []
  | _ => []

end Action

/-! ## What an action does to users and verifications -/

variable [Courier κ]

/-- The ways in which an action changes users and verifications. -/
inductive Verifying (w : World MemoryStore κ) (a : Action κ) (t : Tables) : Prop where
  | same (rows : SameUsers w.store.committed t) (redemptions : a.redemptions w = [])
  | enrolled {u : User} (enrols : a.enrols = true) (id : u.id = w.store.ids.next) (unverified : u.isVerified = false)
      (name : a.NamesUser w → ∀ x ∈ w.store.committed.users.rows, x.username ≠ u.username)
      (rows : SameUsers (w.store.committed.putUser u) t) (redemptions : a.redemptions w = [])
  | issued {v : Verification} (id : v.id = w.store.committed.nextVerificationId) (unused : v.isUsed = false)
      (rows : t = { w.store.committed.putVerification v with
        nextVerificationId := w.store.committed.nextVerificationId + 1 }) (redemptions : a.redemptions w = [])
  | redeemed {c : Redemption} {v : Verification} {u : User}
      (verification : w.store.committed.verification? c.id = some v) (usable : v.isUsableWith c.code c.time = true)
      (user : w.store.committed.userNamed? v.username = some u)
      (rows : t = (w.store.committed.putVerification { v with isUsed := true }).putUser { u with isVerified := true })
      (redemptions : a.redemptions w = [c])

namespace Action

variable {w : World MemoryStore κ}

theorem verifying_register (s : Service) (registration : Registration) :
    Verifying w (.perform s (.registerUser registration))
      (s.perform (.registerUser registration) w).2.store.committed := by
  rcases s.committed_perform (.registerUser registration) w with hsame | ⟨-, r, h⟩
  · exact .same (Part.users.same_of_eq hsame) rfl
  · refine .enrolled (u := r.user) rfl (by rw [h.user]; rfl) (by rw [h.user]; rfl) (fun _ x hx => ?_) ?_ rfl
    · rw [h.user]
      exact (Tables.not_taken h.unique x hx).1
    · rw [h.rows]
      exact ⟨rfl, rfl, rfl⟩

theorem verifying_verify (s : Service) (id : Int) (code : String) :
    Verifying w (.perform s (.verifyEmail id code)) (s.perform (.verifyEmail id code) w).2.store.committed := by
  cases hperform : s.perform (.verifyEmail id code) w with
  | mk result w' =>
      cases result with
      | error e =>
          refine .same (Part.users.same_of_eq (Service.counts_of_error hperform).1) ?_
          simp only [redemptions, hperform]
      | ok r =>
          have hverified := Command.effect_of_perform hperform
          obtain ⟨v, hv, husable, hused⟩ := hverified.code
          obtain ⟨u, hu, huser⟩ := hverified.user
          rw [hused] at hu
          refine .redeemed (c := ⟨id, code, w.store.now⟩) hv husable hu ?_ ?_
          · rw [hverified.rows, hused, huser]
          · simp only [redemptions, hperform]

theorem verifying (w : World MemoryStore κ) (a : Action κ) : Verifying w a (a.apply w).store.committed := by
  cases a with
  | seedUser username email =>
      exact .enrolled (u := (w.store.seedUser username email).1) rfl rfl rfl (fun h => h) ⟨rfl, rfl, rfl⟩ rfl
  | seedVerification username email secretCode seconds =>
      exact .issued (v := (w.store.seedVerification username email secretCode seconds).1) rfl rfl rfl rfl
  | seedWallet userId currency balance | seedMarket base quote
  | seedOrder userId marketId side price amount | injectFault point e | setIds ids | setClock now
  | setCourier courier => exact .same ⟨rfl, rfl, rfl⟩ rfl
  | perform s c =>
      cases c with
      | registerUser registration => exact verifying_register s registration
      | verifyEmail id code => exact verifying_verify s id code
      | settleTrade | updateFill | postTransfer | moveEntry | checkCurrencies | publishBatch =>
          exact .same (s.same_perform .users rfl w) rfl

end Action

/-! ## Users, verifications and the codes that were accepted -/

/-- Verifications are used by the accepted calls, each by its own; a verified user has the name of a used
verification, and a used verification the name of a verified user. -/
structure Tables.Redeemed (t : Tables) (calls : List Redemption) : Prop where
  ids : ∀ v ∈ t.verifications.rows, v.id < t.nextVerificationId
  once : (calls.map Redemption.id).Nodup
  used_iff : ∀ v ∈ t.verifications.rows, v.isUsed = true ↔ ∃ c ∈ calls, c.Redeems v
  found : ∀ c ∈ calls, ∃ v ∈ t.verifications.rows, c.Redeems v
  verified : ∀ u ∈ t.users.rows, u.isVerified = true →
    ∃ v ∈ t.verifications.rows, v.isUsed = true ∧ v.username = u.username
  marked : ∀ v ∈ t.verifications.rows, v.isUsed = true →
    ∃ u ∈ t.users.rows, u.isVerified = true ∧ u.username = v.username

namespace Tables.Redeemed

variable {t t' : Tables} {calls : List Redemption} {c : Redemption} {v : Verification} {u : User}

theorem empty : Redeemed {} [] where
  ids _ h := absurd h List.not_mem_nil
  once := List.nodup_nil
  used_iff _ h := absurd h List.not_mem_nil
  found _ h := absurd h List.not_mem_nil
  verified _ h := absurd h List.not_mem_nil
  marked _ h := absurd h List.not_mem_nil

theorem same (h : t.Redeemed calls) (hsame : SameUsers t t') : t'.Redeemed calls := by
  refine ⟨?_, h.once, ?_, ?_, ?_, ?_⟩
  · rw [hsame.verifications, hsame.next]
    exact h.ids
  · rw [hsame.verifications]
    exact h.used_iff
  · rw [hsame.verifications]
    exact h.found
  · rw [hsame.users, hsame.verifications]
    exact h.verified
  · rw [hsame.users, hsame.verifications]
    exact h.marked

theorem enrol (h : t.Redeemed calls) (hnew : ∀ x ∈ t.users.rows, x.id ≠ u.id) (hu : u.isVerified = false) :
    (t.putUser u).Redeemed calls := by
  refine ⟨h.ids, h.once, h.used_iff, h.found, ?_, ?_⟩
  · refine Table.forall_mem_insert (fun hverified => ?_) h.verified
    rw [hu] at hverified
    cases hverified
  · intro v hv hused
    obtain ⟨x, hx, hverified, hname⟩ := h.marked v hv hused
    have hkey : Keyed.key x ≠ Keyed.key u := fun heq => hnew x hx (Uuid.value_cast_inj.mp heq)
    exact ⟨x, Table.mem_insert_of_ne hx hkey, hverified, hname⟩

theorem issue (h : t.Redeemed calls) (hid : v.id = t.nextVerificationId) (hv : v.isUsed = false) :
    Redeemed { t.putVerification v with nextVerificationId := t.nextVerificationId + 1 } calls := by
  have hkept : ∀ x ∈ t.verifications.rows, x ∈ (t.verifications.insert v).rows := by
    intro x hx
    have hlt := h.ids x hx
    rw [← hid] at hlt
    exact Table.mem_insert_of_ne hx hlt.ne
  refine ⟨?_, h.once, ?_, ?_, ?_, ?_⟩
  · refine Table.forall_mem_insert ?_ fun x hx => (h.ids x hx).trans (Int.lt_succ _)
    rw [hid]
    exact Int.lt_succ _
  · refine Table.forall_mem_insert (iff_of_false (by rw [hv]; exact Bool.false_ne_true) ?_) h.used_iff
    rintro ⟨c, hc, hredeems⟩
    obtain ⟨x, hx, hid'⟩ := h.found c hc
    have hlt := h.ids x hx
    rw [← hid'.id, hredeems.id, hid] at hlt
    exact hlt.false
  · intro c hc
    obtain ⟨x, hx, hredeems⟩ := h.found c hc
    exact ⟨x, hkept x hx, hredeems⟩
  · intro u hu hverified
    obtain ⟨x, hx, hused⟩ := h.verified u hu hverified
    exact ⟨x, hkept x hx, hused⟩
  · refine Table.forall_mem_insert (fun hused => ?_) h.marked
    rw [hv] at hused
    cases hused

/-- No call was accepted for a verification that has not been used. -/
theorem not_found (h : t.Redeemed calls) (hv : v ∈ t.verifications.rows) (hunused : v.isUsed = false) :
    ∀ c ∈ calls, c.id ≠ v.id := by
  intro c hc hid
  obtain ⟨x, hx, hredeems⟩ := h.found c hc
  obtain rfl : x = v := Table.eq_of_key_eq hx hv (hredeems.id.symm.trans hid)
  have hused := (h.used_iff x hx).mpr ⟨c, hc, hredeems⟩
  rw [hunused] at hused
  cases hused

theorem redeem (h : t.Redeemed calls) (hfound : t.verification? c.id = some v)
    (husable : v.isUsableWith c.code c.time = true) (huser : t.userNamed? v.username = some u) :
    ((t.putVerification { v with isUsed := true }).putUser { u with isVerified := true }).Redeemed (calls ++ [c]) := by
  obtain ⟨hv, hid⟩ := Table.mem_of_get? hfound
  obtain ⟨hu, hname⟩ := Table.mem_of_find? huser
  obtain ⟨hcode, hunused, hinTime⟩ := Verification.usable_iff.mp husable
  replace hid : v.id = c.id := hid
  replace hname : u.username = v.username := by simpa using hname
  have hredeems : c.Redeems { v with isUsed := true } := ⟨hid.symm, hcode.symm, hinTime⟩
  have hothers := h.not_found hv hunused
  have hkeptUsed : ∀ x ∈ t.verifications.rows, x.isUsed = true →
      x ∈ (t.verifications.insert { v with isUsed := true }).rows := by
    intro x hx hused
    rcases Table.eq_or_mem_insert { v with isUsed := true } hx hv rfl with rfl | hkept
    · rw [hunused] at hused
      cases hused
    · exact hkept
  refine ⟨Table.forall_mem_insert (h.ids v hv) h.ids, ?_, ?_, ?_, ?_, ?_⟩
  · rw [List.map_append, List.map_singleton]
    refine List.nodup_append.mpr ⟨h.once, List.nodup_singleton _, ?_⟩
    intro id hmem id' hmem' heq
    obtain ⟨d, hd, rfl⟩ := List.mem_map.mp hmem
    obtain rfl := List.mem_singleton.mp hmem'
    exact hothers d hd (heq.trans hid.symm)
  · intro x hx
    rcases Table.mem_insert_iff.mp hx with rfl | ⟨hx, hne⟩
    · exact iff_of_true rfl ⟨c, List.mem_append_right _ (List.mem_singleton_self c), hredeems⟩
    · rw [h.used_iff x hx]
      constructor
      · rintro ⟨d, hd, hdx⟩
        exact ⟨d, List.mem_append_left _ hd, hdx⟩
      · rintro ⟨d, hd, hdx⟩
        rcases List.mem_append.mp hd with hd | hd
        · exact ⟨d, hd, hdx⟩
        · obtain rfl := List.mem_singleton.mp hd
          exact absurd (hdx.id.symm.trans hid.symm) hne
  · intro d hd
    rcases List.mem_append.mp hd with hd | hd
    · obtain ⟨x, hx, hdx⟩ := h.found d hd
      exact ⟨x, Table.mem_insert_of_ne hx fun heq => hothers d hd (hdx.id.trans heq), hdx⟩
    · obtain rfl := List.mem_singleton.mp hd
      exact ⟨_, Table.mem_insert_self, hredeems⟩
  · refine Table.forall_mem_insert (fun _ => ⟨_, Table.mem_insert_self, rfl, hname.symm⟩) fun x hx hverified => ?_
    obtain ⟨y, hy, hused, hyname⟩ := h.verified x hx hverified
    exact ⟨y, hkeptUsed y hy hused, hused, hyname⟩
  · refine Table.forall_mem_insert (fun _ => ⟨_, Table.mem_insert_self, rfl, hname⟩) fun x hx hused => ?_
    obtain ⟨y, hy, hverified, hyname⟩ := h.marked x hx hused
    rcases Table.eq_or_mem_insert { u with isVerified := true } hy hu rfl with rfl | hkept
    · exact ⟨_, Table.mem_insert_self, rfl, hyname⟩
    · exact ⟨y, hkept, hverified, hyname⟩

end Tables.Redeemed

/-! ## What is never undone -/

/-- Every verification and every user is found as it was, or used up and marked. -/
structure Tables.FlagsKept (t t' : Tables) : Prop where
  verifications : ∀ v ∈ t.verifications.rows,
    ∃ v' ∈ t'.verifications.rows, v' = v ∨ v' = { v with isUsed := true }
  users : ∀ u ∈ t.users.rows, ∃ u' ∈ t'.users.rows, u' = u ∨ u' = { u with isVerified := true }

namespace Tables.FlagsKept

variable {t t' t'' : Tables}

theorem of_same (h : SameUsers t t') : t.FlagsKept t' := by
  refine ⟨fun v hv => ⟨v, ?_, .inl rfl⟩, fun u hu => ⟨u, ?_, .inl rfl⟩⟩
  · rwa [h.verifications]
  · rwa [h.users]

theorem refl (t : Tables) : t.FlagsKept t := .of_same ⟨rfl, rfl, rfl⟩

theorem trans (h : t.FlagsKept t') (h' : t'.FlagsKept t'') : t.FlagsKept t'' := by
  constructor
  · intro v hv
    obtain ⟨v', hv', rfl | rfl⟩ := h.verifications v hv
    · exact h'.verifications _ hv'
    · obtain ⟨v'', hv'', rfl | rfl⟩ := h'.verifications _ hv'
      · exact ⟨_, hv'', .inr rfl⟩
      · exact ⟨_, hv'', .inr rfl⟩
  · intro u hu
    obtain ⟨u', hu', rfl | rfl⟩ := h.users u hu
    · exact h'.users _ hu'
    · obtain ⟨u'', hu'', rfl | rfl⟩ := h'.users _ hu'
      · exact ⟨_, hu'', .inr rfl⟩
      · exact ⟨_, hu'', .inr rfl⟩

theorem useUp {v : Verification} (hv : v ∈ t.verifications.rows) :
    t.FlagsKept (t.putVerification { v with isUsed := true }) := by
  refine ⟨fun x hx => ?_, fun u hu => ⟨u, hu, .inl rfl⟩⟩
  rcases Table.eq_or_mem_insert { v with isUsed := true } hx hv rfl with rfl | hkept
  · exact ⟨_, Table.mem_insert_self, .inr rfl⟩
  · exact ⟨x, hkept, .inl rfl⟩

theorem mark {u : User} (hu : u ∈ t.users.rows) : t.FlagsKept (t.putUser { u with isVerified := true }) := by
  refine ⟨fun v hv => ⟨v, hv, .inl rfl⟩, fun x hx => ?_⟩
  rcases Table.eq_or_mem_insert { u with isVerified := true } hx hu rfl with rfl | hkept
  · exact ⟨_, Table.mem_insert_self, .inr rfl⟩
  · exact ⟨x, hkept, .inl rfl⟩

end Tables.FlagsKept

/-- No two users share a name. -/
def Tables.NamesDistinct (t : Tables) : Prop :=
  ∀ u ∈ t.users.rows, ∀ x ∈ t.users.rows, u.username = x.username → u = x

theorem Tables.NamesDistinct.putUser {t : Tables} {u : User} (h : t.NamesDistinct)
    (hnew : ∀ x ∈ t.users.rows, Keyed.key x ≠ Keyed.key u → x.username ≠ u.username) :
    (t.putUser u).NamesDistinct := by
  intro x hx y hy hname
  rcases Table.mem_insert_iff.mp hx with rfl | ⟨hxmem, hxkey⟩
  · rcases Table.mem_insert_iff.mp hy with rfl | ⟨hymem, hykey⟩
    · rfl
    · exact absurd hname.symm (hnew y hymem hykey)
  · rcases Table.mem_insert_iff.mp hy with rfl | ⟨hymem, hykey⟩
    · exact absurd hname (hnew x hxmem hxkey)
    · exact h x hxmem y hymem hname

namespace Verifying

variable {w : World MemoryStore κ} {a : Action κ} {t : Tables} {calls : List Redemption}

theorem redeemed_after (h : Verifying w a t) (hid : a.IdentifiesUser w) (hr : w.store.committed.Redeemed calls) :
    t.Redeemed (calls ++ a.redemptions w) := by
  cases h with
  | same rows redemptions =>
      rw [redemptions, List.append_nil]
      exact hr.same rows
  | enrolled enrols id unverified name rows redemptions =>
      rw [redemptions, List.append_nil]
      exact (hr.enrol (id ▸ hid enrols) unverified).same rows
  | issued id unused rows redemptions =>
      rw [redemptions, List.append_nil, rows]
      exact hr.issue id unused
  | redeemed verification usable user rows redemptions =>
      rw [redemptions, rows]
      exact hr.redeem verification usable user

theorem flagsKept (h : Verifying w a t) (hid : a.IdentifiesUser w) (hr : w.store.committed.Redeemed calls) :
    w.store.committed.FlagsKept t := by
  cases h with
  | same rows => exact .of_same rows
  | @enrolled u enrols id unverified name rows redemptions =>
      have hput : w.store.committed.FlagsKept (w.store.committed.putUser u) := by
        refine ⟨fun v hv => ⟨v, hv, .inl rfl⟩, fun x hx => ⟨x, Table.mem_insert_of_ne hx ?_, .inl rfl⟩⟩
        exact fun heq => hid enrols x hx (id ▸ Uuid.value_cast_inj.mp heq)
      exact hput.trans (.of_same rows)
  | @issued v id unused rows =>
      rw [rows]
      refine ⟨fun x hx => ⟨x, Table.mem_insert_of_ne hx ?_, .inl rfl⟩, fun u hu => ⟨u, hu, .inl rfl⟩⟩
      have hlt := hr.ids x hx
      rw [← id] at hlt
      exact hlt.ne
  | redeemed verification usable user rows =>
      rw [rows]
      exact .trans (.useUp (Table.mem_of_get? verification).1) (.mark (Table.mem_of_find? user).1)

theorem namesDistinct (h : Verifying w a t) (hname : a.NamesUser w) (hd : w.store.committed.NamesDistinct) :
    t.NamesDistinct := by
  cases h with
  | same rows =>
      rw [Tables.NamesDistinct, rows.users]
      exact hd
  | enrolled enrols id unverified name rows =>
      rw [Tables.NamesDistinct, rows.users]
      exact hd.putUser fun x hx _ => name hname x hx
  | issued id unused rows =>
      rw [rows]
      exact hd
  | @redeemed c v u verification usable user rows =>
      have hu := (Table.mem_of_find? user).1
      rw [rows]
      refine Tables.NamesDistinct.putUser hd fun x hx hkey heq => ?_
      obtain rfl : x = u := hd x hx u hu heq
      exact hkey rfl

end Verifying

/-! ## Runs -/

namespace World

variable {w : World MemoryStore κ} {actions : List (Action κ)}

theorem redeemed_after (hempty : w.store.committed = {}) (hids : w.Along Action.IdentifiesUser actions) :
    (w.after actions).store.committed.Redeemed (w.gather Action.redemptions actions) := by
  induction actions using List.reverseRecOn with
  | nil =>
      rw [after, List.foldl_nil, hempty]
      exact .empty
  | append_singleton actions a ih =>
      obtain ⟨hactions, ha⟩ := along_concat_iff.mp hids
      rw [after_concat, gather_concat]
      exact (a.verifying (w.after actions)).redeemed_after ha (ih hactions)

theorem flags_kept (hempty : w.store.committed = {}) (hids : w.Along Action.IdentifiesUser actions) {m n : Nat}
    (hmn : m ≤ n) : (w.stateAt actions m).store.committed.FlagsKept (w.stateAt actions n).store.committed := by
  refine hids.between (I := fun v => ∃ calls, v.store.committed.Redeemed calls)
    (R := fun v x => v.store.committed.FlagsKept x.store.committed) ⟨[], hempty ▸ .empty⟩ ?_ ?_ ?_ hmn
  · rintro v a ha ⟨calls, hr⟩
    exact ⟨⟨_, (a.verifying v).redeemed_after ha hr⟩, (a.verifying v).flagsKept ha hr⟩
  · exact fun v => .refl _
  · exact fun u v x h h' => h.trans h'

theorem names_distinct (hempty : w.store.committed = {}) (hnames : w.Along Action.NamesUser actions) :
    (w.after actions).store.committed.NamesDistinct := by
  refine hnames.invariant ?_ fun v a ha hd => (a.verifying v).namesDistinct ha hd
  rw [hempty]
  exact fun u hu => absurd hu List.not_mem_nil

end World

theorem Tables.Redeemed.isVerified_iff {t : Tables} {calls : List Redemption} (h : t.Redeemed calls)
    (hd : t.NamesDistinct) {u : User} (hu : u ∈ t.users.rows) :
    u.isVerified = true ↔ ∃ v ∈ t.verifications.rows, v.isUsed = true ∧ v.username = u.username := by
  refine ⟨h.verified u hu, ?_⟩
  rintro ⟨v, hv, hused, hname⟩
  obtain ⟨x, hx, hverified, hxname⟩ := h.marked v hv hused
  rwa [hd u hu x hx (hname.symm.trans hxname.symm)]

/-- A code is not accepted for a verification whose name no user has. -/
theorem Service.refuses_unnamed (s : Service) {id : Int} {code : String} {w : World MemoryStore κ} {v : Verification}
    (hv : w.store.committed.verification? id = some v) (hname : w.store.committed.userNamed? v.username = none) :
    ∃ e, (s.perform (.verifyEmail id code) w).1 = .error e := by
  cases hperform : s.perform (.verifyEmail id code) w with
  | mk result w' =>
      cases result with
      | error e => exact ⟨e, rfl⟩
      | ok r =>
          have hverified := Command.effect_of_perform hperform
          obtain ⟨x, hx, -, hused⟩ := hverified.code
          obtain ⟨u, hu, -⟩ := hverified.user
          obtain rfl : x = v := Option.some.inj (hx.symm.trans hv)
          rw [hused, hname] at hu
          cases hu

/-- No two calls are accepted for one verification. In every state of a run the verifications that are used are those
for which a call was accepted, with their code and in time; a verified user has the name of a used verification, and a
used verification that of a verified user; if seeded users have new names, the users verified are exactly those whose
name a used verification carries. Nothing of this is ever undone. A call that is not accepted changes nothing, and none
is accepted for a verification whose name no user has. -/
theorem World.verified_by_code {w : World MemoryStore κ} {actions : List (Action κ)} (hempty : w.store.committed = {})
    (hids : w.Along Action.IdentifiesUser actions) :
    ((w.gather Action.redemptions actions).map Redemption.id).Nodup ∧
    (∀ n, (w.stateAt actions n).store.committed.Redeemed (w.gather Action.redemptions (actions.take n))) ∧
    (w.Along Action.NamesUser actions → ∀ n, ∀ u ∈ (w.stateAt actions n).store.committed.users.rows,
      (u.isVerified = true ↔ ∃ v ∈ (w.stateAt actions n).store.committed.verifications.rows,
        v.isUsed = true ∧ v.username = u.username)) ∧
    (∀ m n, m ≤ n → (w.stateAt actions m).store.committed.FlagsKept (w.stateAt actions n).store.committed) ∧
    (∀ (v : World MemoryStore κ) (s : Service) (id : Int) (code : String),
      (∀ e, (s.perform (.verifyEmail id code) v).1 = .error e →
        (s.perform (.verifyEmail id code) v).2.store.committed = v.store.committed) ∧
      ∀ x, v.store.committed.verification? id = some x → v.store.committed.userNamed? x.username = none →
        ∃ e, (s.perform (.verifyEmail id code) v).1 = .error e) := by
  refine ⟨(redeemed_after hempty hids).once, fun n => redeemed_after hempty (hids.take n), ?_, ?_, ?_⟩
  · intro hnames n u hu
    exact (redeemed_after hempty (hids.take n)).isVerified_iff (names_distinct hempty (hnames.take n)) hu
  · exact fun m n hmn => flags_kept hempty hids hmn
  · intro v s id code
    refine ⟨fun e herror => (Service.counts_of_error (Prod.ext herror rfl)).1, fun x hx hname => ?_⟩
    exact s.refuses_unnamed hx hname

/-- A run in which a code is guessed wrong, then struck by a failure between its two writes, then accepted, then
returned again; and a second code names nobody. -/
def verificationRun : List (Action Mailbox) :=
  [.perform {} (.registerUser { username := "ann", email := "ann@example.org", passwordHash := "", role := .user }),
   .seedUser "bob" "bob@example.org",
   .seedVerification "ann" "ann@example.org" "s3cret" 60,
   .seedVerification "eve" "eve@example.org" "c0de" 60,
   .perform {} (.verifyEmail 1 "guess"),
   .injectFault .markUserVerified (.conflict "40001"),
   .perform {} (.verifyEmail 1 "s3cret"),
   .perform {} (.verifyEmail 1 "s3cret"),
   .perform {} (.verifyEmail 1 "s3cret"),
   .perform {} (.verifyEmail 2 "c0de")]

theorem verificationRun_identifiesUsers : emptyWorld.Along Action.IdentifiesUser verificationRun := by
  refine .cons (by decide +kernel) (.cons (by decide +kernel) ?_)
  exact .cons nofun (.cons nofun (.cons nofun (.cons nofun (.cons nofun (.cons nofun
    (.cons nofun (.cons nofun .nil)))))))

theorem verificationRun_namesUsers : emptyWorld.Along Action.NamesUser verificationRun := by
  have hbob : ∀ u ∈ (emptyWorld.after (verificationRun.take 1)).store.committed.users.rows, u.username ≠ "bob" := by
    decide +kernel
  refine .cons trivial (.cons hbob ?_)
  exact .cons trivial (.cons trivial (.cons trivial (.cons trivial (.cons trivial (.cons trivial
    (.cons trivial (.cons trivial .nil)))))))

theorem World.verificationRun_verifies :
    ((emptyWorld.gather Action.redemptions verificationRun).map Redemption.id).Nodup ∧
    (emptyWorld.gather Action.redemptions verificationRun).map Redemption.id = [1] ∧
    (emptyWorld.after verificationRun).store.committed.users.rows.map (fun u => (u.username, u.isVerified))
      = [("ann", true), ("bob", false)] ∧
    (emptyWorld.after verificationRun).store.committed.verifications.rows.map (fun v => (v.username, v.isUsed))
      = [("ann", true), ("eve", false)] ∧
    ∀ u ∈ (emptyWorld.after verificationRun).store.committed.users.rows, u.isVerified = true ↔
      ∃ v ∈ (emptyWorld.after verificationRun).store.committed.verifications.rows,
        v.isUsed = true ∧ v.username = u.username := by
  obtain ⟨honce, -, hiff, -⟩ := verified_by_code rfl verificationRun_identifiesUsers
  have hverified := hiff verificationRun_namesUsers verificationRun.length
  rw [stateAt, List.take_length] at hverified
  exact ⟨honce, by decide +kernel, by decide +kernel, by decide +kernel, hverified⟩

/-- A run in which a user registers, and another one is seeded under the same name. -/
def namesakeRun : List (Action Mailbox) :=
  [.perform {} (.registerUser { username := "ann", email := "ann@example.org", passwordHash := "", role := .user }),
   .seedUser "ann" "ann@example.com",
   .seedVerification "ann" "ann@example.com" "s3cret" 60,
   .perform {} (.verifyEmail 1 "s3cret")]

/-- It is not enough that seeded names differ from each other: of two namesakes one is verified. -/
theorem World.namesake_unverified :
    ¬ ∀ actions : List (Action Mailbox), emptyWorld.Along Action.IdentifiesUser actions →
      (actions.filterMap Action.seededName?).Nodup →
      ∀ u ∈ (emptyWorld.after actions).store.committed.users.rows, u.isVerified = true ↔
        ∃ v ∈ (emptyWorld.after actions).store.committed.verifications.rows,
          v.isUsed = true ∧ v.username = u.username := by
  intro h
  have hids : emptyWorld.Along Action.IdentifiesUser namesakeRun :=
    .cons (by decide +kernel) (.cons (by decide +kernel) (.cons nofun (.cons nofun .nil)))
  exact absurd (h namesakeRun hids (by decide)) (by decide +kernel)

end Clearing
